import Directives.Text.Utf8

/-! Byte text.

Programs read and write bytes. Here a byte is a character below 256, so that what is
said of text can be said of bytes as well. -/
namespace Directives.Octets

/-- The byte text of bytes. -/
def ofBytes (bytes : Bytes) : Text :=
  bytes.map fun b => Char.ofNat b.toNat

/-- The bytes of a byte text. -/
def toBytes (s : Text) : Bytes :=
  s.map fun c => UInt8.ofNat c.toNat

/-- The UTF-8 form of a text as byte text. -/
def ofText (s : Text) : Text :=
  ofBytes (Utf8.encode s)

/-- The text of a byte text. -/
def toText (s : Text) : Text :=
  Utf8.decodeLossy (toBytes s)

/-- Nothing of a sequence of bytes is lost. -/
theorem toBytes_ofBytes (bytes : Bytes) : toBytes (ofBytes bytes) = bytes := by
  induction bytes with
  | nil => rfl
  | cons b bytes ih =>
    have hb : UInt8.ofNat (Char.ofNat b.toNat).toNat = b := by
      have hv : b.toNat.isValidChar := Or.inl (by have := b.toNat_lt; omega)
      have : (Char.ofNat b.toNat).toNat = b.toNat := by
        rw [Char.ofNat, dif_pos hv]
        rfl
      rw [this, UInt8.ofNat_toNat]
    simp only [toBytes, ofBytes, List.map_cons, List.map_map] at ih ⊢
    rw [hb, ih]

/-- A character that is shown as it is: printable ASCII. -/
def isPrint (c : Char) : Bool :=
  ' ' ≤ c && c ≤ '~'

/-- A decimal digit. -/
def isDigit (c : Char) : Bool :=
  '0' ≤ c && c ≤ '9'

/-- An octal digit. -/
def isOctalDigit (c : Char) : Bool :=
  '0' ≤ c && c ≤ '7'

/-- A letter that can begin the name of a variable. -/
def isNameStart (c : Char) : Bool :=
  c.isAlpha || c == '_'

/-- A character of the name of a variable. -/
def isNameChar (c : Char) : Bool :=
  c.isAlphanum || c == '_'

/-- The value of a digit, whatever the base. -/
def digitValue (c : Char) : Nat :=
  if isDigit c then c.toNat - '0'.toNat
  else if 'a' ≤ c && c ≤ 'z' then c.toNat - 'a'.toNat + 10
  else if 'A' ≤ c && c ≤ 'Z' then c.toNat - 'A'.toNat + 10
  else 36

/-- The number that digits write. -/
def number (base : Nat) (digits : Text) : Nat :=
  digits.foldl (fun n c => n * base + digitValue c) 0

/-- The digits of a base at the start, at most `count` of them, and what follows. -/
def digits (base count : Nat) (s : Text) : Text × Text :=
  let found := (s.take count).takeWhile fun c => digitValue c < base
  (found, s.drop found.length)

end Directives.Octets
