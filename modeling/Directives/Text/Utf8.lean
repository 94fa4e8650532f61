import Directives.Text.Basic

/-! UTF-8.

Bytes are read one by one; between them stands what is owed to the character begun.
Bytes that no character can hold make one broken piece together with what was read
of that character, so that each longest beginning of a character counts as one. -/
namespace Directives

/-- A sequence of bytes. -/
abbrev Bytes := List UInt8

namespace Utf8

/-- The UTF-8 form of a text. -/
def encode (s : Text) : Bytes :=
  s.flatMap String.utf8EncodeChar

/-- A character begun: the bits read, the bytes owed and the bounds of the next byte. -/
structure Begun where
  bits : Nat
  owed : Nat
  low : Nat := 0x80
  high : Nat := 0xBF

/-- What the first byte of a character begins; nothing if no character begins with it. A
byte below 0x80 is a character of its own, to which nothing is owed. -/
def first? (b : Nat) : Option Begun :=
  if b < 0x80 then some ⟨b, 0, 0x80, 0xBF⟩
  else if 0xC2 ≤ b && b ≤ 0xDF then some ⟨b - 0xC0, 1, 0x80, 0xBF⟩
  else if b == 0xE0 then some ⟨0, 2, 0xA0, 0xBF⟩
  else if b == 0xED then some ⟨0xD, 2, 0x80, 0x9F⟩
  else if 0xE1 ≤ b && b ≤ 0xEF then some ⟨b - 0xE0, 2, 0x80, 0xBF⟩
  else if b == 0xF0 then some ⟨0, 3, 0x90, 0xBF⟩
  else if 0xF1 ≤ b && b ≤ 0xF3 then some ⟨b - 0xF0, 3, 0x80, 0xBF⟩
  else if b == 0xF4 then some ⟨4, 3, 0x80, 0x8F⟩
  else none

/-- What bytes are read as: characters, and `none` for a broken piece. -/
abbrev Pieces := List (Option Char)

/-- A byte between characters: what is complete, and what is begun. -/
def start (b : Nat) : Pieces × Option Begun :=
  match first? b with
  | none => ([none], none)
  | some begun =>
    if begun.owed == 0 then ([some (Char.ofNat begun.bits)], none) else ([], some begun)

/-- One more byte. -/
def step (begun : Option Begun) (b : Nat) : Pieces × Option Begun :=
  match begun with
  | none => start b
  | some begun =>
    if begun.low ≤ b && b ≤ begun.high then
      let bits := begun.bits * 64 + (b - 0x80)
      if begun.owed == 1 then ([some (Char.ofNat bits)], none)
      else ([], some ⟨bits, begun.owed - 1, 0x80, 0xBF⟩)
    else
      let (pieces, begun) := start b
      (none :: pieces, begun)

/-- What the bytes are read as, behind a character begun. -/
def pieces (begun : Option Begun) : Bytes → Pieces
  | [] => if begun.isSome then [none] else []
  | b :: bs =>
    let (now, begun) := step begun b.toNat
    now ++ pieces begun bs

/-- The text of bytes that are UTF-8. -/
def decode? (bytes : Bytes) : Option Text :=
  (pieces none bytes).mapM id

/-- The text of bytes, a replacement character standing for each broken piece. -/
def decodeLossy (bytes : Bytes) : Text :=
  (pieces none bytes).map (·.getD '\uFFFD')

end Utf8
end Directives
