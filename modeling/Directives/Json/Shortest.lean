import Directives.Json.Binary64
import Directives.Text.Basic

/-! The fewest decimal digits that name a binary64 number.

A decimal names a number when it lies in the interval of values that round to the
number; the ends belong to the interval when the mantissa is even. For one digit,
two digits and so on the two neighbours of the number on that decimal grid are
tried; the first grid with a neighbour in the interval gives the digits, of two
neighbours the nearer, of two equally near the even one. -/
namespace Directives.Shortest

/-- The decimal `0.digits * 10 ^ point`, its first digit not zero. -/
structure Digits where
  digits : Text
  point : Int
  deriving DecidableEq, Repr

/-- How many decimal digits a number has. -/
def digitCount (n : Nat) : Nat :=
  (Nat.toDigits 10 n).length

/-- The number of digits before the point of `num / den`, not positive below one tenth. -/
def pointOf (num den : Nat) : Int :=
  if den ≤ num then digitCount (num / den)
  else 1 - (digitCount ((den - 1) / num) : Int)

/-- The values that round to a positive number, each in quarters of the last place: the
least, the number itself and the greatest. -/
structure Interval where
  low : Nat
  middle : Nat
  high : Nat
  closed : Bool
  /-- The exponent of two of a quarter. -/
  exponent : Int

/-- Below a power of two the next number is only half as far. -/
def Interval.of (x : Binary64) : Interval where
  low :=
    if x.mantissa == Nat.pow 2 52 && x.exponent != Binary64.leastExponent then 4 * x.mantissa - 1
    else 4 * x.mantissa - 2
  middle := 4 * x.mantissa
  high := 4 * x.mantissa + 2
  closed := x.mantissa % 2 == 0
  exponent := x.exponent - 2

/-- `q * 2 ^ e2 / 10 ^ e10` as a fraction. -/
def inUnits (q : Nat) (e2 e10 : Int) : Nat × Nat :=
  (q * Nat.pow 2 e2.toNat * Nat.pow 10 (-e10).toNat, Nat.pow 2 (-e2).toNat * Nat.pow 10 e10.toNat)

/-- Whether `d` units of `10 ^ e10` lie in the interval. -/
def Interval.holds (i : Interval) (e10 : Int) (d : Nat) : Bool :=
  let (low, den) := inUnits i.low i.exponent e10
  let (high, _) := inUnits i.high i.exponent e10
  if i.closed then low ≤ d * den && d * den ≤ high else low < d * den && d * den < high

/-- The neighbour in the interval on the grid of `10 ^ e10`. -/
def neighbour? (i : Interval) (e10 : Int) : Option Nat :=
  let (num, den) := inUnits i.middle i.exponent e10
  let below := num / den
  let above := below + 1
  match i.holds e10 below, i.holds e10 above with
  | true, true => some (Binary64.nearest num den)
  | true, false => some below
  | false, true => some above
  | false, false => none

/-- The digits of a multiple of a power of ten, zeros at the end left out. -/
def trimZeros (n : Nat) : Text :=
  ((Nat.toDigits 10 n).reverse.dropWhile (· == '0')).reverse

/-- The first grid with a neighbour in the interval, from `count` digits on. -/
def search (i : Interval) (point : Int) (count : Nat) : Nat → Digits
  | 0 => ⟨[], point⟩
  | tries + 1 =>
    let e10 := point - count
    match neighbour? i e10 with
    | some n => ⟨trimZeros n, e10 + digitCount n⟩
    | none => search i point (count + 1) tries

/-- The fewest digits that name a positive number; 17 are always enough. -/
def ofBinary64 (x : Binary64) : Digits :=
  let (num, den) := x.ratio
  search (.of x) (pointOf num den) 1 17

end Directives.Shortest
