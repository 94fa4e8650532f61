import Directives.Program.CharClass

/-! Integers as they are written on a command line.

White space and a sign may stand in front. The digits are hexadecimal behind `0x`,
binary behind `0b`, octal behind `0`, and else decimal. What does not belong to the
number is left. -/
namespace Directives.Program

/-- What was read of a written number. -/
structure Reading (α : Type) where
  value : α
  rest : Text
  /-- The number is out of range, and `value` the nearest one in it. -/
  outOfRange : Bool := false
  deriving Repr

/-- The white space in front of a number goes. -/
def skipSpace (s : Text) : Text :=
  s.dropWhile CharClass.space.has

/-- A sign, and what follows it. -/
def signOf : Text → Bool × Text
  | '-' :: rest => (true, rest)
  | '+' :: rest => (false, rest)
  | s => (false, s)

namespace Integer

/-- The base that the digits are in, and the digits with what follows. -/
def baseOf (s : Text) : Nat × Text :=
  match s with
  | '0' :: x :: d :: rest =>
    if (x = 'x' || x = 'X') && Octets.digitValue d < 16 then (16, d :: rest)
    else if (x = 'b' || x = 'B') && Octets.digitValue d < 2 then (2, d :: rest)
    else (8, s)
  | '0' :: _ => (8, s)
  | _ => (10, s)

/-- The magnitude of a number behind its sign, and what follows; nothing without digits. -/
def magnitude? (s : Text) : Option (Nat × Text) :=
  let (base, s) := baseOf s
  let (digits, rest) := Octets.digits base s.length s
  if digits.isEmpty then none else some (Octets.number base digits, rest)

/-- The least 64-bit integer. -/
def least : Int := -9223372036854775808

/-- The greatest 64-bit integer. -/
def greatest : Int := 9223372036854775807

/-- How many 64-bit words there are. -/
def words : Nat := 18446744073709551616

/-- Read a 64-bit integer. -/
def signed (s : Text) : Reading Int :=
  let (negative, behind) := signOf (skipSpace s)
  match magnitude? behind with
  | none => ⟨0, s, false⟩
  | some (n, rest) =>
    let n : Int := if negative then -n else n
    if n < least then ⟨least, rest, true⟩
    else if greatest < n then ⟨greatest, rest, true⟩
    else ⟨n, rest, false⟩

/-- Read a 64-bit word; a negative number is counted from the end. -/
def unsigned (s : Text) : Reading Nat :=
  let (negative, behind) := signOf (skipSpace s)
  match magnitude? behind with
  | none => ⟨0, s, false⟩
  | some (n, rest) =>
    if words ≤ n then ⟨words - 1, rest, true⟩
    else ⟨if negative then (words - n) % words else n, rest, false⟩

end Integer
end Directives.Program
