import Directives.Program.CharClass
import Directives.Program.Quote

/-! Sets of bytes as `tr` is given them.

A set is written as characters, escapes, ranges such as `a-z`, classes such as
`[:lower:]`, equivalents such as `[=a=]` and repeats such as `[x*3]`. The order in which
they stand counts. -/
namespace Directives.Program.Transliterate

/-- A part of a set. -/
inductive Element where
  | byte (c : Char)
  | range (first last : Char)
  | named (k : CharClass)
  | equivalent (c : Char)
  /-- A byte a number of times, or, where the number is zero, as often as needed. -/
  | repeated (c : Char) (count : Nat)
  deriving DecidableEq, Repr

/-- A byte, and whether it was written with a backslash. -/
abbrev Letter := Char × Bool

/-- The bytes of a written set, and what there is to warn of. -/
def unescape : Text → List Letter × List Text
  | [] => ([], [])
  | ['\\'] =>
    ([('\\', false)], ["warning: an unescaped backslash at end of string is not portable"])
  | '\\' :: a :: b :: c :: rest =>
    if Octets.isOctalDigit a && Octets.isOctalDigit b && Octets.isOctalDigit c then
      if a ≤ '3' then also (Char.ofNat (Octets.number 8 [a, b, c])) (unescape rest)
      else
        let (letters, warnings) := also (Char.ofNat (Octets.number 8 [a, b])) (unescape (c :: rest))
        (letters, ambiguous a b c :: warnings)
    else if Octets.isOctalDigit a && Octets.isOctalDigit b then
      also (Char.ofNat (Octets.number 8 [a, b])) (unescape (c :: rest))
    else also (single a) (unescape (b :: c :: rest))
  | ['\\', a, b] =>
    if Octets.isOctalDigit a && Octets.isOctalDigit b then
      also (Char.ofNat (Octets.number 8 [a, b])) ([], [])
    else also (single a) (unescape [b])
  | ['\\', a] => also (single a) ([], [])
  | c :: rest =>
    let (letters, warnings) := unescape rest
    ((c, false) :: letters, warnings)
where
  /-- One more byte that was written with a backslash. -/
  also (c : Char) (more : List Letter × List Text) : List Letter × List Text :=
    ((c, true) :: more.1, more.2)
  /-- The byte of an escape of one character. -/
  single (c : Char) : Char :=
    if Octets.isOctalDigit c then Char.ofNat (Octets.digitValue c) else (controlOf? c).getD c
  /-- Three octal digits are too many for a byte. -/
  ambiguous (a b c : Char) : Text :=
    "warning: the ambiguous octal escape \\" ++ [a, b, c] ++ " is being\n\tinterpreted as the " ++
      "2-byte sequence \\0" ++ [a, b] ++ ", " ++ [c]

/-- Bytes as they are shown in messages about sets. -/
def shown (s : Text) : Text :=
  s.flatMap fun c =>
    if c = '\\' then ['\\', '\\'] else if Octets.isPrint c then [c] else controlEscape c

/-- A byte as it is shown in messages about ranges. -/
def shownByte (c : Char) : Text :=
  if Octets.isPrint c then [c] else octalEscape c

/-- Why sets cannot be used. -/
inductive Fault where
  | emptyClass
  | unknownClass (name : Text)
  | emptyEquivalent
  | longEquivalent (name : Text)
  | badCount (written : Text)
  | reversedRange (first last : Char)
  | tooLarge
  | fillInFirst
  | fillsInSecond
  | fillWithoutTranslation
  | equivalentInSecond
  | classInSecond
  | misaligned
  | emptySecond
  | classAtEnd
  | severalTargets
  deriving DecidableEq, Repr

/-- What is said about a fault. -/
def Fault.message : Fault → Text
  | .emptyClass => "missing character class name '[::]'"
  | .unknownClass name => "invalid character class " ++ quote (shown name)
  | .emptyEquivalent => "missing equivalence class character '[==]'"
  | .longEquivalent name =>
    shown name ++ ": equivalence class operand must be a single character"
  | .badCount written => "invalid repeat count " ++ quote (shown written) ++ " in [c*n] construct"
  | .reversedRange first last =>
    "range-endpoints of '" ++ shownByte first ++ "-" ++ shownByte last ++
      "' are in reverse collating sequence order"
  | .tooLarge => "too many characters in set"
  | .fillInFirst => "the [c*] repeat construct may not appear in string1"
  | .fillsInSecond => "only one [c*] repeat construct may appear in string2"
  | .fillWithoutTranslation => "the [c*] construct may appear in string2 only when translating"
  | .equivalentInSecond => "[=c=] expressions may not appear in string2 when translating"
  | .classInSecond => "when translating, the only character classes that may appear in\n" ++
    "string2 are 'upper' and 'lower'"
  | .misaligned => "misaligned [:upper:] and/or [:lower:] construct"
  | .emptySecond => "when not truncating set1, string2 must be non-empty"
  | .classAtEnd => "when translating with string1 longer than string2,\n" ++
    "the latter string must not end with a character class"
  | .severalTargets => "when translating with complemented character classes,\n" ++
    "string2 must map all characters in the domain to one"

/-- What stands in front of the first unescaped `delimiter` and `]`, and behind them. -/
def cutAtClosing? (delimiter : Char) : List Letter → Option (Text × List Letter)
  | a :: b :: rest =>
    if a = (delimiter, false) && b = (']', false) then some ([], rest)
    else (cutAtClosing? delimiter (b :: rest)).map fun (name, rest) => (a.1 :: name, rest)
  | _ => none

/-- What stands in front of the next `]`, as long as nothing is escaped, and behind it. -/
def cutAtBracket? : List Letter → Option (Text × List Letter)
  | (c, false) :: rest =>
    if c = ']' then some ([], rest)
    else (cutAtBracket? rest).map fun (inside, rest) => (c :: inside, rest)
  | _ => none

/-- Whether a star, digits and a closing bracket come next. -/
def isCount : List Letter → Bool
  | ('*', false) :: rest => (rest.dropWhile fun l => Octets.isDigit l.1).head? = some (']', false)
  | _ => false

/-- The most bytes that a set may have. -/
def most : Nat := 18446744073709551613

/-- The number in a repeat: octal behind a zero, else decimal. -/
def count? (s : Text) : Option Nat :=
  let base := if s.head? = some '0' then 8 else 10
  let digits := match s.dropWhile CharClass.space.has with
    | '+' :: digits => digits
    | digits => digits
  if digits.isEmpty || !digits.all (fun c => Octets.digitValue c < base) then none
  else
    let n := Octets.number base digits
    if most < n then none else some n

/-- A repeat behind its opening bracket, and what follows it. -/
def repeat? : List Letter → Except Fault (Option (Element × List Letter))
  | (c, _) :: ('*', false) :: rest =>
    match cutAtBracket? rest with
    | none => .ok none
    | some ([], rest) => .ok (some (.repeated c 0, rest))
    | some (inside, rest) =>
      match count? inside with
      | some n => .ok (some (.repeated c n, rest))
      | none => .error (.badCount inside)
  | _ => .ok none

/-- A class or an equivalent behind its opening bracket and `delimiter`. -/
def delimited? (delimiter : Char) (letters : List Letter) :
    Except Fault (Option (Element × List Letter)) :=
  match cutAtClosing? delimiter letters with
  | none => .ok none
  | some (name, rest) =>
    if delimiter = ':' then
      match name, CharClass.ofName? name with
      | [], _ => .error .emptyClass
      | _, some k => .ok (some (.named k, rest))
      | _, none =>
        if isCount letters then .ok none
        else .error (.unknownClass name)
    else match name with
      | [] => .error .emptyEquivalent
      | [c] => .ok (some (.equivalent c, rest))
      | _ =>
        if isCount letters then .ok none
        else .error (.longEquivalent name)

/-- What an opening bracket begins, if it is more than a character, and what follows. -/
def bracket? (letters : List Letter) : Except Fault (Option (Element × List Letter)) := do
  match letters with
  | (delimiter, false) :: rest =>
    if delimiter = ':' || delimiter = '=' then
      match ← delimited? delimiter rest with
      | some found => return some found
      | none => repeat? letters
    else repeat? letters
  | _ => repeat? letters

/-- The elements of a set, read in at most `tries` steps. -/
def elements : Nat → List Letter → Except Fault (List Element)
  | tries + 1, a :: b :: c :: rest => do
    let found ← if a = ('[', false) then bracket? (b :: c :: rest) else pure none
    match found with
    | some (element, rest) => (element :: ·) <$> elements tries rest
    | none =>
      if b = ('-', false) then
        if a.1 ≤ c.1 then (.range a.1 c.1 :: ·) <$> elements tries rest
        else .error (.reversedRange a.1 c.1)
      else (.byte a.1 :: ·) <$> elements tries (b :: c :: rest)
  | _, letters => .ok (letters.map fun l => .byte l.1)

/-- Every byte. -/
def allBytes : Text :=
  (List.range 256).map Char.ofNat

/-- Whether a class is one of letters of one case. -/
def isCase (k : CharClass) : Bool :=
  k = .upper || k = .lower

namespace Element

/-- How often an element is written out at most. No set reaches that far otherwise. -/
def longest : Nat := 65536

/-- The bytes of an element in order. -/
def bytes : Element → Text
  | .byte c | .equivalent c => [c]
  | .range first last =>
    (List.range (last.toNat + 1 - first.toNat)).map fun i => Char.ofNat (first.toNat + i)
  | .named k => allBytes.filter k.has
  | .repeated c count => List.replicate (min count longest) c

/-- How many bytes an element stands for. -/
def size : Element → Nat
  | .repeated _ count => count
  | e => e.bytes.length

/-- The class of letters of one case that an element is. -/
def case? : Element → Option CharClass
  | .named k => if isCase k then some k else none
  | _ => none

end Element

/-- One byte of a set written out. -/
structure Slot where
  byte : Char
  /-- Whether an element begins here. -/
  isFirst : Bool
  /-- The class of letters of one case that it belongs to. -/
  case? : Option CharClass
  deriving DecidableEq, Repr

/-- The bytes of an element with what is known of them. -/
def Element.slots (e : Element) : List Slot :=
  match e.bytes with
  | [] => []
  | c :: cs => ⟨c, true, e.case?⟩ :: cs.map fun c => ⟨c, false, e.case?⟩

/-- A set written out. -/
def slots (set : List Element) : List Slot :=
  set.flatMap Element.slots

/-- What follows the element that a set written out begins with. -/
def afterElement (set : List Slot) : List Slot :=
  set.tail.dropWhile fun s => !s.isFirst

/-- The bytes that are in a set. -/
def members (set : List Element) : Text :=
  allBytes.filter ((slots set).map (·.byte)).contains

end Directives.Program.Transliterate
