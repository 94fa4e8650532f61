import Directives.Toml.Document

/-! Numbers, dates and booleans of TOML.

The form of a scalar is checked where it is read: a decimal integer has no sign but one
in front and no zeros in front, a float has a fraction, an exponent or both, and
underscores stand between digits. What number it is, and whether there is such a
number, is asked only of items that are looked at. -/
namespace Directives.Toml

/-- A hexadecimal digit. -/
def isHexDigit (c : Char) : Bool :=
  c.isDigit || ('a' ≤ c && c ≤ 'f') || ('A' ≤ c && c ≤ 'F')

/-- The text behind a sign, if there is one. -/
def unsigned (s : Text) : Text :=
  match s with
  | '+' :: rest | '-' :: rest => rest
  | _ => s

/-! ### Underscores -/

/-- Whether the groups between underscores begin and end with a digit, the beginning of the
first and the end of the last being left out of account, and so the end of a group of
one character. -/
def groupsFit (isDigit : Char → Bool) (first : Bool) : List Text → Bool
  | [] => true
  | [last] => first || last.head?.all isDigit
  | group :: groups =>
    (first || group.head?.any isDigit) && (group.length ≤ 1 || group.getLast?.any isDigit) &&
      groupsFit isDigit false groups

/-- A number without its underscores. -/
def withoutUnderscores? (isDigit : Char → Bool) (s : Text) : Option Text :=
  if s.contains '_' then
    if s.head? == some '_' || s.getLast? == some '_' then none
    else
      let groups := Text.splitOn '_' s
      if groupsFit isDigit true groups then some groups.flatten else none
  else some s

/-! ### Integers and floats -/

/-- The integer of a radix other than ten, its prefix passed. -/
def radixed? (radix : Nat) (isDigit : Char → Bool) (s : Text) : Option Item :=
  if s.all fun c => isDigit c || c == '_' then
    (withoutUnderscores? isHexDigit s).map (.integer radix)
  else none

/-- A character of a decimal number. -/
def isDecimal (c : Char) : Bool :=
  c.isDigit || c == '_'

/-- Past digits and underscores with at least one digit among them. -/
def skipDigits? (s : Text) : Option Text :=
  if (s.takeWhile isDecimal).any Char.isDigit then some (s.dropWhile isDecimal) else none

/-- Past the fraction, if there is one. -/
def skipFraction? : Text → Option Text
  | '.' :: rest => skipDigits? rest
  | s => some s

/-- Past the exponent, if there is one. -/
def skipExponent? : Text → Option Text
  | 'e' :: rest | 'E' :: rest => skipDigits? (unsigned rest)
  | s => some s

/-- Whether a text without its sign has the form of a float. -/
def isFloat (s : Text) : Bool :=
  let whole := s.takeWhile isDecimal
  let zeros := s.head? == some '0' && 1 < whole.countP Char.isDigit
  !zeros && ((skipDigits? s).bind fun s => (skipFraction? s).bind skipExponent?) == some []

/-- Whether digits, or digits and more behind an underscore, have a zero in front. -/
def hasLeadingZero (s : Text) : Bool :=
  s.head? == some '0' && 1 < s.length

/-- The number that is written as `s`, of which `number` is left without the sign. -/
def decimal? (s number : Text) : Option Item :=
  let rest := number.dropWhile Char.isDigit
  if rest.any fun c => c == '.' || c == 'e' || c == 'E' then
    if isFloat number then (withoutUnderscores? Char.isDigit s).map .float else none
  else if (rest.isEmpty || rest.head? == some '_') && !hasLeadingZero number then
    (withoutUnderscores? isHexDigit s).map (.integer 10)
  else none

/-! ### Dates and times -/

/-- The number of exactly `count` digits. -/
def digits? (count : Nat) (s : Text) : Option Nat :=
  if s.length == count && s.all Char.isDigit then
    some (s.foldl (fun n c => n * 10 + (c.toNat - '0'.toNat)) 0)
  else none

/-- Whether a year has a leap day. -/
def isLeapYear (year : Nat) : Bool :=
  (year % 4 == 0 && year % 100 != 0) || year % 400 == 0

/-- The days of a month. -/
def daysIn (year month : Nat) : Nat :=
  if month == 2 then (if isLeapYear year then 29 else 28)
  else if month == 4 || month == 6 || month == 9 || month == 11 then 30
  else 31

/-- Whether a text is a day of the calendar. -/
def isDay (s : Text) : Bool :=
  match (Text.splitOn '-' s) with
  | [year, month, day] =>
    match digits? 4 year, digits? 2 month, digits? 2 day with
    | some year, some month, some day =>
      1 ≤ month && month ≤ 12 && 1 ≤ day && day ≤ daysIn year month
    | _, _, _ => false
  | _ => false

/-- Two digits up to `greatest`. -/
def isPart (greatest : Nat) (s : Text) : Bool :=
  match digits? 2 s with
  | some n => n ≤ greatest
  | none => false

/-- Whether a text is a second, with or without a fraction. -/
def isSeconds (s : Text) : Bool :=
  match Text.splitOn '.' s with
  | [whole] => isPart 60 whole
  | [whole, fraction] => isPart 60 whole && !fraction.isEmpty && fraction.all Char.isDigit
  | _ => false

/-- A time of day; the seconds may be left out. -/
def isTime (s : Text) : Bool :=
  match Text.splitOn ':' s with
  | [hours, minutes] => isPart 23 hours && isPart 59 minutes
  | [hours, minutes, seconds] => isPart 23 hours && isPart 59 minutes && isSeconds seconds
  | _ => false

/-- The distance from universal time, `Z` or a sign and a time. -/
def isOffset (s : Text) : Bool :=
  match s with
  | ['Z'] | ['z'] => true
  | sign :: rest =>
    (sign == '+' || sign == '-') &&
      match Text.splitOn ':' rest with
      | [hours, minutes] => isPart 23 hours && isPart 59 minutes
      | _ => false
  | [] => false

/-- A time of day with or without an offset. -/
def isOffsetTime (s : Text) : Bool :=
  let isMark (c : Char) : Bool := c == 'Z' || c == 'z' || c == '+' || c == '-'
  let offset := s.dropWhile fun c => !isMark c
  isTime (s.takeWhile fun c => !isMark c) && (offset.isEmpty || isOffset offset)

/-- A day, a time, or both with a `T` or a space between them. -/
def isDate (s : Text) : Bool :=
  let day := s.take 10
  match s.drop 10 with
  | [] => isDay s || isTime s
  | mark :: time =>
    (isDay day && (mark == 'T' || mark == 't' || mark == ' ') && isOffsetTime time) || isTime s

/-! ### Scalars -/

/-- Whether a text begins with digits and then `-` or `:`, as only dates and times do. -/
def isDateLike (s : Text) : Bool :=
  match s.dropWhile Char.isDigit with
  | c :: _ => (c == '-' || c == ':') && s.head?.any Char.isDigit
  | [] => false

/-- The item of a word that stands for a value. -/
def scalar? (s : Text) : Option Item :=
  if s = "true" then some (.boolean true)
  else if s = "false" then some (.boolean false)
  else if isDateLike s then (if isDate s then some (.date s) else none)
  else
    let number := unsigned s
    if number = "inf" || number = "nan" then some (.float s)
    else match s with
      | '0' :: 'x' :: rest => radixed? 16 isHexDigit rest
      | '0' :: 'o' :: rest => radixed? 8 (fun c => '0' ≤ c && c ≤ '7') rest
      | '0' :: 'b' :: rest => radixed? 2 (fun c => c == '0' || c == '1') rest
      | _ => if number.head?.any isDecimal then decimal? s number else none

/-! ### Which number it is -/

/-- The value of a digit of a radix up to 16. -/
def digitValue? (radix : Nat) (c : Char) : Option Nat :=
  let n :=
    if c.isDigit then c.toNat - '0'.toNat
    else if isHexDigit c then c.toLower.toNat - 'a'.toNat + 10
    else radix
  if n < radix then some n else none

/-- The number of digits of a radix, at least one. -/
def natural? (radix : Nat) (s : Text) : Option Nat :=
  if s.isEmpty then none
  else s.foldlM (fun n c => (digitValue? radix c).map (n * radix + ·)) 0

/-- Whether an integer lies between the least of 128 bits with a sign and the greatest of 128
bits without one. -/
def isInteger (radix : Nat) (s : Text) : Bool :=
  match natural? radix (unsigned s) with
  | some n => if s.head? == some '-' then n ≤ Nat.pow 2 127 else n < Nat.pow 2 128
  | none => false

/-- Whether a float has a binary64 number, which one beyond the greatest has not. -/
def isFinite (s : Text) : Bool :=
  let number := unsigned s
  let isMark (c : Char) : Bool := c == 'e' || c == 'E'
  let mantissa := number.takeWhile fun c => !isMark c
  let exponent := (number.dropWhile fun c => !isMark c).drop 1
  let fraction := (mantissa.dropWhile (· != '.')).drop 1
  match natural? 10 (mantissa.filter Char.isDigit), natural? 10 (unsigned exponent) with
  | none, _ => true
  | some n, e =>
    let e : Int := e.getD 0
    let e := (if exponent.head? == some '-' then -e else e) - fraction.countP Char.isDigit
    let point : Int := (Nat.toDigits 10 n).length + e
    if n == 0 || point < 300 then true
    else if 310 < point then false
    else if 0 ≤ e then (Binary64.ofRatio? (n * Nat.pow 10 e.toNat) 1).isSome
    else (Binary64.ofRatio? n (Nat.pow 10 (-e).toNat)).isSome

mutual

/-- Whether every number of an item is one. -/
def Item.isSound : Item → Bool
  | .integer radix written => isInteger radix written
  | .float written => isFinite written
  | .array items => soundItems items
  | .table _ entries => soundEntries entries
  | .tables earlier last => soundTables earlier && soundEntries last
  | .string _ | .boolean _ | .date _ => true

/-- Whether every number of some items is one. -/
def Item.soundItems : List Item → Bool
  | [] => true
  | item :: items => item.isSound && soundItems items

/-- Whether every number of some entries is one. -/
def Item.soundEntries : List (Text × Item) → Bool
  | [] => true
  | (_, item) :: entries => item.isSound && soundEntries entries

/-- Whether every number of some tables is one. -/
def Item.soundTables : List (List (Text × Item)) → Bool
  | [] => true
  | entries :: rest => soundEntries entries && soundTables rest

end

end Directives.Toml
