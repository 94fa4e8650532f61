import Directives.Json.Value

/-! Numbers written in decimal.

The digits that fit 64 bits make an integer. Without a point or an exponent, and
if its digits all fit, that is the number, unless it is below the least 64-bit
integer or is `-0`. Otherwise the integer is rounded to binary64 and then
multiplied or divided by one power of ten, so that three roundings lie between
the text and its number; digits behind the 64-bit integer count as zeros. A
number beyond the greatest binary64 number is refused, one below the least is
zero. -/
namespace Directives.Decimal

/-- The value of a decimal digit. -/
def digitValue (c : Char) : Nat :=
  c.toNat - '0'.toNat

/-- The most that a significand holds before digits are dropped. -/
def greatestSignificand : Nat := Nat.pow 2 64 - 1

/-- The leading digits that fit 64 bits, from `n` on, and those that do not. -/
def significand (n : Nat) : Text → Nat × Text
  | [] => (n, [])
  | c :: cs =>
    let next := n * 10 + digitValue c
    if next ≤ greatestSignificand then significand next cs else (n, c :: cs)

/-- `f * 10 ^ e`, each step rounded: by one power of ten if that is at most `10 ^ 308`, else
down by `10 ^ 308` first. -/
def scale? (f : Binary64) (e : Int) : Option Binary64 :=
  if 0 ≤ e then
    if e ≤ 308 then f.mul? (.tenTo e.toNat)
    else if f.isZero then some f else none
  else if h : -308 ≤ e then f.div? (.tenTo (-e).toNat)
  else if f.isZero then some f
  else (f.div? (.tenTo 308)).bind fun g => scale? g (e + 308)
  termination_by e.natAbs
  decreasing_by omega

/-- A number in its written parts, the texts holding digits only. -/
structure Written where
  negative : Bool
  whole : Text
  /-- The digits behind the point, if there is one. -/
  fraction : Option Text
  /-- The exponent of ten, if there is one. -/
  exponent : Option Int
  deriving DecidableEq, Repr

namespace Written

/-- The number of an integer with the given digits, if it stays one. -/
def int? (negative : Bool) (n : Nat) : Option Number :=
  if !negative then some (.int n)
  else if 0 < n && n ≤ Nat.pow 2 63 then some (.int (-n))
  else none

/-- The number that is written. -/
def number? (w : Written) : Option Number :=
  let (n, beyond) := significand 0 w.whole
  let asInt :=
    if beyond.isEmpty && w.fraction.isNone && w.exponent.isNone then int? w.negative n else none
  match asInt with
  | some number => some number
  | none =>
    let digits := w.fraction.getD []
    let (m, ignored) := significand n digits
    let point := (beyond.length : Int) - ((digits.length - ignored.length : Nat) : Int)
    let e := point + w.exponent.getD 0
    (scale? (.ofNat m) e).map fun f => .float (if w.negative then f.neg else f)

end Written

/-- The digits at the start of a text, at least one, and what follows them. -/
def digits? (s : Text) : Option (Text × Text) :=
  match s.takeWhile Char.isDigit with
  | [] => none
  | ds => some (ds, s.dropWhile Char.isDigit)

/-- The digits before the point: `0`, or digits of which the first is not `0`. -/
def whole? (s : Text) : Option (Text × Text) := do
  let (ds, rest) ← digits? s
  if ds.head? = some '0' && ds.length ≠ 1 then none else some (ds, rest)

/-- A point and the digits behind it, if there is a point. -/
def fraction? (s : Text) : Option (Option Text × Text) :=
  match s with
  | '.' :: rest => (digits? rest).map fun (ds, rest) => (some ds, rest)
  | _ => some (none, s)

/-- The value of a text of digits. -/
def natOf (ds : Text) : Nat :=
  ds.foldl (fun n c => n * 10 + digitValue c) 0

/-- The digits of an exponent behind its sign. -/
def exponentDigits? (negative : Bool) (s : Text) : Option (Option Int × Text) :=
  (digits? s).map fun (ds, rest) =>
    (some (if negative then -(natOf ds : Int) else (natOf ds : Int)), rest)

/-- An exponent of ten, if there is one. -/
def exponent? (s : Text) : Option (Option Int × Text) :=
  match s with
  | c :: rest =>
    if c = 'e' || c = 'E' then
      match rest with
      | '-' :: rest => exponentDigits? true rest
      | '+' :: rest => exponentDigits? false rest
      | _ => exponentDigits? false rest
    else some (none, s)
  | [] => some (none, s)

/-- The number at the start of a text that begins with a digit or `-`, and what follows it. -/
def read? (s : Text) : Option (Number × Text) := do
  let (negative, rest) := match s with
    | '-' :: rest => (true, rest)
    | _ => (false, s)
  let (whole, rest) ← whole? rest
  let (fraction, rest) ← fraction? rest
  let (exponent, rest) ← exponent? rest
  let number ← (Written.mk negative whole fraction exponent).number?
  some (number, rest)

end Directives.Decimal
