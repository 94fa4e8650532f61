import Directives.Json.Read
import Directives.Proofs.Text
import Mathlib.Tactic.SplitIfs

/-! What a character of a JSON string takes to write.

An escape with a code unit has four digits, and a character of one code unit takes at most
three bytes (`utf8Size_ofNat_le`); a pair of them has more than the four bytes that any
character takes; what has a short escape is one byte. So nothing that is read is longer than
it was written, in bytes no more than in characters (`byteSize_of_char?`). -/
namespace Directives

open Text (byteSize)

namespace Read

theorem between_iff {a b c : Char} :
    (decide (a ≤ c) && decide (c ≤ b)) = true ↔ a.toNat ≤ c.toNat ∧ c.toNat ≤ b.toNat := by
  simp only [Bool.and_eq_true, decide_eq_true_eq, Char.le_def, UInt32.le_iff_toNat_le, Char.toNat_val]

theorem hexValue?_lt {c : Char} {n : Nat} (h : hexValue? c = some n) : n < 16 := by
  have hdigits : '0'.toNat = 48 ∧ '9'.toNat = 57 := ⟨rfl, rfl⟩
  have hlower : 'a'.toNat = 97 ∧ 'f'.toNat = 102 := ⟨rfl, rfl⟩
  have hupper : 'A'.toNat = 65 ∧ 'F'.toNat = 70 := ⟨rfl, rfl⟩
  unfold hexValue? at h
  split_ifs at h with hdigit hsmall hlarge
  · rw [Char.isDigit_iff_toNat] at hdigit
    cases h
    omega
  · rw [between_iff] at hsmall
    cases h
    omega
  · rw [between_iff] at hlarge
    cases h
    omega

theorem toNat_ofNat_le (u : Nat) : (Char.ofNat u).toNat ≤ u := by
  by_cases h : u.isValidChar
  · rw [Char.ofNat, dif_pos h]
    exact le_rfl
  · rw [Char.ofNat, dif_neg h]
    exact Nat.zero_le u

/-- A character of 16 bits takes three bytes at most. -/
theorem utf8Size_ofNat_le {u : Nat} (h : u < 0x10000) : (Char.ofNat u).utf8Size ≤ 3 := by
  have htoNat := toNat_ofNat_le u
  have hle := Char.utf8Size_le_four (Char.ofNat u)
  have hne : (Char.ofNat u).utf8Size ≠ 4 := by
    rw [Ne, Char.utf8Size_eq_four_iff, UInt32.lt_iff_toNat_lt, Char.toNat_val, Nat.not_lt]
    exact htoNat.trans (Nat.le_of_lt_succ h)
  omega

/-- Four digits are four bytes, and make up a code unit of 16 bits. -/
theorem byteSize_of_unit? {s rest : Text} {u : Nat} (h : unit? s = some (u, rest)) :
    u < 0x10000 ∧ byteSize rest + 4 ≤ byteSize s := by
  unfold unit? at h
  split at h
  next a b c d rest' =>
    simp only [Option.bind_eq_bind, Option.bind_eq_some_iff, Option.some.injEq, Prod.mk.injEq] at h
    obtain ⟨a', ha, b', hb, c', hc, d', hd, rfl, rfl⟩ := h
    have := hexValue?_lt ha
    have := hexValue?_lt hb
    have := hexValue?_lt hc
    have := hexValue?_lt hd
    have := Char.utf8Size_pos a
    have := Char.utf8Size_pos b
    have := Char.utf8Size_pos c
    have := Char.utf8Size_pos d
    simp only [Text.byteSize_cons]
    omega
  next => cases h

theorem byteSize_of_unicodeEscape? {s rest : Text} {c : Char} (h : unicodeEscape? s = some (c, rest)) :
    c.utf8Size + byteSize rest ≤ byteSize s := by
  simp only [unicodeEscape?, Option.bind_eq_some_iff] at h
  obtain ⟨⟨high, behind⟩, hhigh, h⟩ := h
  obtain ⟨hlt, hbehind⟩ := byteSize_of_unit? hhigh
  split at h
  next c' hunit =>
    cases h
    unfold ofUnit? at hunit
    split at hunit
    next => cases hunit
    next =>
      cases hunit
      have := utf8Size_ofNat_le hlt
      show (Char.ofNat high).utf8Size + byteSize behind ≤ byteSize s
      omega
  next =>
    simp only [Option.bind_eq_some_iff, Option.map_eq_some_iff, Prod.mk.injEq] at h
    obtain ⟨next, hnext, ⟨low, last⟩, hlow, c', -, rfl, rfl⟩ := h
    obtain ⟨-, hlast⟩ := byteSize_of_unit? hlow
    rw [Text.after?_eq_some_iff.mp hnext, Text.byteSize_append] at hbehind
    have := Char.utf8Size_le_four c'
    show c'.utf8Size + byteSize last ≤ byteSize s
    omega

theorem utf8Size_of_shortEscape? {d c : Char} (h : shortEscape? d = some c) : c.utf8Size = 1 := by
  unfold shortEscape? at h
  split_ifs at h with hself
  · cases h
    simp only [Bool.or_eq_true, decide_eq_true_eq] at hself
    rcases hself with (rfl | rfl) | rfl <;> rfl
  all_goals
    cases h
    rfl

/-- A character takes no more bytes than it is written with. -/
theorem byteSize_of_char? {s rest : Text} {c : Char} (h : char? s = some (c, rest)) :
    c.utf8Size + byteSize rest ≤ byteSize s := by
  cases s with
  | nil => cases h
  | cons first behind =>
    unfold char? at h
    simp only at h
    split_ifs at h with hescape
    · cases behind with
      | nil => cases h
      | cons second behind =>
        simp only at h
        split_ifs at h
        · have hunit := byteSize_of_unicodeEscape? h
          simp only [Text.byteSize_cons]
          omega
        · obtain ⟨c', hshort, heq⟩ := Option.map_eq_some_iff.mp h
          cases heq
          have hone := utf8Size_of_shortEscape? hshort
          have hpos := Char.utf8Size_pos first
          simp only [Text.byteSize_cons]
          omega
    · cases h
      rw [Text.byteSize_cons]

end Read
end Directives
