import Directives.Program.Number.Real

/-! How a value is laid out: signs, padding, digits.

The width is filled up with spaces on the left, or on the right, or with zeros behind
the sign. The precision is the least number of digits of an integer, the number of
digits behind the point of a real, and the most bytes of a text. -/
namespace Directives.Program

/-- The flags, the width and the precision of a conversion. -/
structure Layout where
  left : Bool := false
  plus : Bool := false
  space : Bool := false
  /-- The other form: a base in front, or a point at any rate. -/
  alternate : Bool := false
  zeros : Bool := false
  width : Nat := 0
  precision : Option Nat := none
  deriving DecidableEq, Repr, Inhabited

namespace Layout

/-- The layout with a flag set, if the character is one. -/
def flag? (l : Layout) (c : Char) : Option Layout :=
  if c = '-' then some { l with left := true }
  else if c = '+' then some { l with plus := true }
  else if c = ' ' then some { l with space := true }
  else if c = '#' then some { l with alternate := true }
  else if c = '0' then some { l with zeros := true }
  else none

/-- The layout with a width, which goes to the left if it is negative. -/
def withWidth (l : Layout) (n : Int) : Layout :=
  { l with width := n.natAbs, left := l.left || n < 0 }

/-- The layout with a precision, a negative one being none. -/
def withPrecision (l : Layout) (n : Int) : Layout :=
  { l with precision := if n < 0 then none else some n.toNat }

/-- Fill a value up to the width; `sign` stands in front of the zeros. -/
def fill (l : Layout) (withZeros : Bool) (sign body : Text) : Text :=
  let missing := l.width - (sign.length + body.length)
  if l.left then sign ++ body ++ List.replicate missing ' '
  else if withZeros then sign ++ List.replicate missing '0' ++ body
  else List.replicate missing ' ' ++ sign ++ body

/-- What stands in front of a number. -/
def sign (l : Layout) (negative : Bool) : Text :=
  if negative then ['-'] else if l.plus then ['+'] else if l.space then [' '] else []

/-- A text, cut to the precision. -/
def text (l : Layout) (s : Text) : Text :=
  l.fill false [] (match l.precision with
    | some n => s.take n
    | none => s)

/-- Digits, at least as many as the precision says; zero in no digits has none. -/
def digits (l : Layout) (base n : Nat) : Text :=
  match l.precision with
  | none => Nat.toDigits base n
  | some least =>
    let written := if n = 0 then [] else Nat.toDigits base n
    List.replicate (least - written.length) '0' ++ written

/-- An integer with its sign. -/
def signed (l : Layout) (n : Int) : Text :=
  l.fill (l.zeros && l.precision.isNone) (l.sign (n < 0)) (l.digits 10 n.natAbs)

/-- A word in the base that a letter names. -/
def unsigned (l : Layout) (letter : Char) (n : Nat) : Text :=
  let fill := l.fill (l.zeros && l.precision.isNone)
  if letter = 'o' then
    let digits := l.digits 8 n
    fill [] (if l.alternate && digits.head? ≠ some '0' then '0' :: digits else digits)
  else if letter = 'x' then
    fill (if l.alternate && n ≠ 0 then ['0', 'x'] else []) (l.digits 16 n)
  else if letter = 'X' then
    fill (if l.alternate && n ≠ 0 then ['0', 'X'] else []) ((l.digits 16 n).map Char.toUpper)
  else fill [] (l.digits 10 n)

/-- Digits with a point in front of the last `places` of them. -/
def withPoint (l : Layout) (places : Nat) (n : Nat) : Text :=
  let digits := Nat.toDigits 10 n
  let digits := List.replicate (places + 1 - digits.length) '0' ++ digits
  let (whole, fraction) := digits.splitAt (digits.length - places)
  whole ++ (if places = 0 && !l.alternate then [] else '.' :: fraction)

/-- A ratio with a number of places behind the point. -/
def fixed (l : Layout) (places num den : Nat) : Text :=
  l.withPoint places (Binary64.nearest (num * Nat.pow 10 places) den)

/-- The digits of a ratio, one before the point and `places` behind it, as one number, and the
exponent of ten. -/
def scientificDigits (places num den : Nat) : Nat × Int :=
  if num = 0 then (0, 0)
  else
    let guess : Int := ((Nat.toDigits 10 num).length : Int) - (Nat.toDigits 10 den).length
    let (n, d) := tenths num den guess
    let e := if n < d then guess - 1 else guess
    let (n, d) := tenths num den e
    let m := Binary64.nearest (n * Nat.pow 10 places) d
    if m = Nat.pow 10 (places + 1) then (Nat.pow 10 places, e + 1) else (m, e)
where
  /-- `num / (den * 10 ^ e)`. -/
  tenths (num den : Nat) (e : Int) : Nat × Nat :=
    if 0 ≤ e then (num, den * Nat.pow 10 e.toNat) else (num * Nat.pow 10 (-e).toNat, den)

/-- An exponent with its sign and at least `least` digits. -/
def exponent (least : Nat) (e : Int) : Text :=
  let digits := Nat.toDigits 10 e.natAbs
  (if e < 0 then '-' else '+') :: (List.replicate (least - digits.length) '0' ++ digits)

/-- A ratio with an exponent of ten. -/
def scientific (l : Layout) (places num den : Nat) : Text :=
  let (m, e) := scientificDigits places num den
  l.withPoint places m ++ 'e' :: exponent 2 e

/-- The text without the zeros at its end, and without a point there. -/
def withoutZeros (s : Text) : Text :=
  if s.contains '.' then
    let kept := s.reverse.dropWhile (· = '0')
    (match kept with
      | '.' :: rest => rest
      | rest => rest).reverse
  else s

/-- A ratio in the shorter of the two forms, with a number of digits in all. What rounding alone
lifts out of the fixed form has one digit. -/
def general (l : Layout) (places num den : Nat) : Text :=
  let places := max 1 places
  let (m, e) := scientificDigits (places - 1) num den
  let shorten (s : Text) : Text := if l.alternate then s else withoutZeros s
  if -4 ≤ e && e < places then
    shorten (l.fixed ((places : Int) - 1 - e).toNat num den)
  else if e = places && num < den * Nat.pow 10 places then
    l.withPoint 0 1 ++ 'e' :: exponent 2 e
  else shorten (l.withPoint (places - 1) m) ++ 'e' :: exponent 2 e

/-- A mantissa in hexadecimal, one digit before the point. The first digit holds `first` of the
`bits` binary digits. -/
def hexadecimal (l : Layout) (p : Precision) (m : Nat) (e : Int) : Text :=
  let first := (p.digits - 1) % 4 + 1
  let places := (p.digits - first) / 4
  let exponentOfTop := if m = 0 then 0 else e + ((4 * places : Nat) : Int)
  let (m, kept) := match l.precision with
    | some n =>
      if n < places then (Binary64.nearest m (Nat.pow 16 (places - n)), n)
      else (m * Nat.pow 16 (n - places), n)
    | none => (m, places)
  let digits := Nat.toDigits 16 m
  let digits := List.replicate (kept + 1 - digits.length) '0' ++ digits
  let (whole, fraction) := digits.splitAt (digits.length - kept)
  let shortened := (fraction.reverse.dropWhile (· = '0')).reverse
  let fraction := if l.precision.isNone then shortened else fraction
  let (whole, exponentOfTop) :=
    if whole.length = 2 then (['1'], exponentOfTop + 4) else (whole, exponentOfTop)
  whole ++ (if fraction.isEmpty && !l.alternate then [] else '.' :: fraction) ++
    'p' :: exponent 1 exponentOfTop

/-- The digits of a number that is not below zero. -/
def magnitude (l : Layout) (p : Precision) (letter : Char) (m : Nat) (e : Int) : Text :=
  let (num, den) := if 0 ≤ e then (m * Nat.pow 2 e.toNat, 1) else (m, Nat.pow 2 (-e).toNat)
  let places := l.precision.getD 6
  if letter = 'f' then l.fixed places num den
  else if letter = 'e' then l.scientific places num den
  else if letter = 'g' then l.general places num den
  else l.hexadecimal p m e

/-- A floating-point number in the form that a letter names. -/
def real (l : Layout) (p : Precision) (letter : Char) (x : Real) : Text :=
  let sign := l.sign x.isNegative
  let small := letter.toLower
  let laid := match x with
    | .finite _ m e =>
      let sign := if small = 'a' then sign ++ ['0', 'x'] else sign
      l.fill l.zeros sign (l.magnitude p small m e)
    | .infinite _ => l.fill false sign "inf"
    | .notANumber _ => l.fill false sign "nan"
  if letter = small then laid else laid.map Char.toUpper

end Layout
end Directives.Program
