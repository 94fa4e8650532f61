import Directives.Json.Binary64
import Directives.Program.Number.Integer

/-! Floating-point numbers of any width, read from text.

A number is written in decimal, or behind `0x` in hexadecimal with an exponent of two,
or as `inf` or `nan`. It is rounded once, to the nearest number of the format, a tie to
the even one. -/
namespace Directives.Program

/-- A floating-point format: how many binary digits a number has, and which exponents. -/
structure Precision where
  digits : Nat
  /-- The exponent of two of the last place of the numbers nearest to zero. -/
  least : Int
  /-- The exponent of two that no number reaches. -/
  bound : Int
  deriving DecidableEq, Repr

/-- 53 binary digits. -/
def Precision.double : Precision := ⟨53, -1074, 1024⟩

/-- 64 binary digits. -/
def Precision.extended : Precision := ⟨64, -16445, 16384⟩

/-- A floating-point number: `± mantissa * 2 ^ exponent`, or none. -/
inductive Real where
  | finite (negative : Bool) (mantissa : Nat) (exponent : Int)
  | infinite (negative : Bool)
  | notANumber (negative : Bool)
  deriving DecidableEq, Repr

namespace Precision

/-- The mantissa and the exponent of the number nearest to `num / den`, which is above zero, and
whether that number is smaller than the others and not exact. -/
def nearest (p : Precision) (num den : Nat) : Nat × Int × Bool :=
  let e : Int := (num.log2 : Int) - (den.log2 : Int) - ((p.digits - 1 : Nat) : Int)
  let (n, d) := Binary64.scaled num den e
  let e := if n < Nat.pow 2 (p.digits - 1) * d then e - 1 else e
  let least := max p.least e
  let (n, d) := Binary64.scaled num den least
  let m := Binary64.nearest n d
  if m = Nat.pow 2 p.digits then (Nat.pow 2 (p.digits - 1), least + 1, false)
  else (m, least, e < p.least && n % d != 0)

/-- The number nearest to `num / den`. -/
def ofRatio (p : Precision) (negative : Bool) (num den : Nat) : Real × Bool :=
  if num = 0 then (.finite negative 0 0, false)
  else
    let (m, e, isLost) := p.nearest num den
    if p.bound < e + ((p.digits : Nat) : Int) then (.infinite negative, true)
    else (.finite negative m e, isLost)

end Precision

namespace Real

/-- The digits of a number with a point in it: those before it, those behind it, and what
follows. -/
def digits (base : Nat) (s : Text) : Text × Text × Text :=
  let (whole, rest) := Octets.digits base s.length s
  match rest with
  | '.' :: behind =>
    let (fraction, rest) := Octets.digits base behind.length behind
    if whole.isEmpty && fraction.isEmpty then ([], [], s) else (whole, fraction, rest)
  | _ => (whole, [], rest)

/-- An exponent behind one of two letters, and what follows; zero without one. -/
def exponent (small large : Char) (s : Text) : Int × Text :=
  match s with
  | c :: behind =>
    if c = small || c = large then
      let (negative, behind) := signOf behind
      let (digits, rest) := Octets.digits 10 behind.length behind
      if digits.isEmpty then (0, s)
      else
        let n : Int := Octets.number 10 digits
        (if negative then -n else n, rest)
    else (0, s)
  | [] => (0, s)

/-- Beyond this exponent of ten no format has a number but zero and the infinite ones. -/
def farthest : Int := 6000

/-- The number `n * base ^ e`, with a text behind it. -/
def scaled (p : Precision) (negative : Bool) (base n : Nat) (e : Int) (rest : Text) :
    Reading Real :=
  let size : Int := (n.log2 : Int) * (if base = 2 then 1 else 3) / 10
  let reach := if base = 2 then e / 4 else e
  if n = 0 then ⟨.finite negative 0 0, rest, false⟩
  else if farthest < reach + size then ⟨.infinite negative, rest, true⟩
  else if reach + size < -farthest then ⟨.finite negative 0 0, rest, true⟩
  else
    let (x, isLost) :=
      if 0 ≤ e then p.ofRatio negative (n * Nat.pow base e.toNat) 1
      else p.ofRatio negative n (Nat.pow base (-e).toNat)
    ⟨x, rest, isLost⟩

/-- Read a number in decimal. -/
def decimal (p : Precision) (negative : Bool) (s : Text) : Option (Reading Real) :=
  let (whole, fraction, rest) := digits 10 s
  if whole.isEmpty && fraction.isEmpty then none
  else
    let (e, rest) := exponent 'e' 'E' rest
    some (scaled p negative 10 (Octets.number 10 (whole ++ fraction)) (e - fraction.length) rest)

/-- Read a number in hexadecimal behind `0x`. -/
def hexadecimal (p : Precision) (negative : Bool) (s : Text) : Option (Reading Real) :=
  let (whole, fraction, rest) := digits 16 s
  if whole.isEmpty && fraction.isEmpty then none
  else
    let (e, rest) := exponent 'p' 'P' rest
    some (scaled p negative 2 (Octets.number 16 (whole ++ fraction)) (e - 4 * fraction.length) rest)

/-- What follows a word at the start of a text, in letters of either case. -/
def afterWord? (word s : Text) : Option Text :=
  if (s.take word.length).map Char.toLower = word then some (s.drop word.length) else none

/-- What follows what may stand between parentheses behind `nan`. -/
def afterPayload (s : Text) : Text :=
  match s with
  | '(' :: inside =>
    match inside.dropWhile Octets.isNameChar with
    | ')' :: rest => rest
    | _ => s
  | _ => s

/-- Read a word for what is no finite number. -/
def word? (negative : Bool) (s : Text) : Option (Reading Real) :=
  match afterWord? "infinity" s <|> afterWord? "inf" s, afterWord? "nan" s with
  | some rest, _ => some ⟨.infinite negative, rest, false⟩
  | none, some rest => some ⟨.notANumber negative, afterPayload rest, false⟩
  | none, none => none

/-- Read a number. -/
def read (p : Precision) (s : Text) : Reading Real :=
  let (negative, behind) := signOf (skipSpace s)
  let inHex := match behind with
    | '0' :: x :: digits => if x = 'x' || x = 'X' then hexadecimal p negative digits else none
    | _ => none
  (inHex <|> decimal p negative behind <|> word? negative behind).getD
    ⟨.finite false 0 0, s, false⟩

/-- Whether a number has a minus in front. -/
def isNegative : Real → Bool
  | .finite negative _ _ | .infinite negative | .notANumber negative => negative

end Real
end Directives.Program
