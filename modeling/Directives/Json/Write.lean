import Directives.Json.Shortest
import Directives.Json.Value

/-! JSON text.

The compact form has no white space. In a string the quote and the backslash are
escaped, and the characters below U+0020, which have a short escape or `\u` and
four lower-case digits; all other characters stand as they are. A binary64 number
has the fewest digits that name it, with a point in it from `10 ^ -5` up to
`10 ^ 16`, and an exponent with its sign otherwise. -/
namespace Directives

namespace Write

/-- A digit below sixteen, in lower case. -/
def hexDigit (n : Nat) : Char :=
  Nat.digitChar n

/-- A character of a string. -/
def escaped (c : Char) : Text :=
  if c = '"' then ['\\', '"']
  else if c = '\\' then ['\\', '\\']
  else if c = '\x08' then ['\\', 'b']
  else if c = '\x0c' then ['\\', 'f']
  else if c = '\n' then ['\\', 'n']
  else if c = '\r' then ['\\', 'r']
  else if c = '\t' then ['\\', 't']
  else if c.toNat < 0x20 then
    ['\\', 'u', '0', '0', hexDigit (c.toNat / 16), hexDigit (c.toNat % 16)]
  else [c]

/-- A string with its quotes. -/
def string (s : Text) : Text :=
  '"' :: (s.flatMap escaped ++ ['"'])

/-- An integer. -/
def int (n : Int) : Text :=
  if n < 0 then '-' :: Text.ofNat n.natAbs else Text.ofNat n.natAbs

/-- A run of zeros. -/
def zeros (n : Nat) : Text :=
  List.replicate n '0'

/-- A point in its place among the digits, a zero before or behind it where no digit is. -/
def positional (d : Shortest.Digits) : Text :=
  if d.point ≤ 0 then ['0', '.'] ++ zeros (-d.point).toNat ++ d.digits
  else
    let point := d.point.toNat
    if d.digits.length ≤ point then
      d.digits ++ zeros (point - d.digits.length) ++ ['.', '0']
    else d.digits.take point ++ ['.'] ++ d.digits.drop point

/-- One digit before the point, and an exponent. -/
def scientific (d : Shortest.Digits) : Text :=
  let exponent := d.point - 1
  let mantissa := match d.digits with
    | first :: second :: rest => first :: '.' :: second :: rest
    | digits => digits
  mantissa ++ ['e', if exponent < 0 then '-' else '+'] ++ Text.ofNat exponent.natAbs

/-- A binary64 number. -/
def binary64 (x : Binary64) : Text :=
  let magnitude :=
    if x.isZero then ['0', '.', '0']
    else
      let d := Shortest.ofBinary64 x
      if -5 < d.point && d.point ≤ 16 then positional d else scientific d
  if x.negative then '-' :: magnitude else magnitude

/-- A number as it is written. -/
def number : Number → Text
  | .int n => int n
  | .float x => binary64 x

/-- A boolean as it is written. -/
def bool (b : Bool) : Text :=
  if b then ['t', 'r', 'u', 'e'] else ['f', 'a', 'l', 's', 'e']

/-- Null as it is written. -/
def null : Text := ['n', 'u', 'l', 'l']

end Write

mutual

/-- The compact text of a value. -/
def Value.compact : Value → Text
  | .null => Write.null
  | .bool b => Write.bool b
  | .number n => Write.number n
  | .text s => Write.string s
  | .array items => '[' :: (Value.compactItems items ++ [']'])
  | .object members => '{' :: (Value.compactMembers members ++ ['}'])

/-- Items with commas between them. -/
def Value.compactItems : List Value → Text
  | [] => []
  | [v] => v.compact
  | v :: w :: rest => v.compact ++ ',' :: Value.compactItems (w :: rest)

/-- Members with commas between them. -/
def Value.compactMembers : List (Text × Value) → Text
  | [] => []
  | [(k, v)] => Write.string k ++ ':' :: v.compact
  | (k, v) :: m :: rest =>
    Write.string k ++ ':' :: v.compact ++ ',' :: Value.compactMembers (m :: rest)

end

end Directives
