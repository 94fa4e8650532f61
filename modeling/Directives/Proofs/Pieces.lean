import Directives.Text.Basic
import Mathlib.Data.List.Basic

/-! The pieces of a text between separators.

Cutting a text at a separator and putting the pieces together again undo each other, as
long as no piece has the separator in it (`splitOn_joined`, `joined_splitOn`). -/
namespace Directives.Text

/-! ### Cutting -/

theorem splitOn_self (c : Char) (s : Text) : splitOn c (c :: s) = [] :: splitOn c s :=
  if_pos rfl

theorem exists_splitOn (c : Char) (s : Text) : ∃ piece pieces, splitOn c s = piece :: pieces := by
  cases s with
  | nil => exact ⟨[], [], rfl⟩
  | cons d s =>
    rw [splitOn]
    split
    · exact ⟨_, _, rfl⟩
    · split <;> exact ⟨_, _, rfl⟩

theorem splitOn_of_ne {c d : Char} (hd : d ≠ c) {s piece : Text} {pieces : List Text}
    (h : splitOn c s = piece :: pieces) : splitOn c (d :: s) = (d :: piece) :: pieces := by
  rw [splitOn, if_neg hd, h]

theorem splitOn_of_notMem {c : Char} {s : Text} (h : c ∉ s) : splitOn c s = [s] := by
  induction s with
  | nil => rfl
  | cons d s ih =>
    rw [List.mem_cons, not_or] at h
    exact splitOn_of_ne (Ne.symm h.1) (ih h.2)

/-- The first piece is the text up to the first separator. -/
theorem exists_eq_append_of_splitOn {c : Char} {s piece : Text} {pieces : List Text}
    (h : splitOn c s = piece :: pieces) : c ∉ piece ∧ ∃ rest, s = piece ++ rest := by
  induction s generalizing piece pieces with
  | nil =>
    cases h
    exact ⟨List.not_mem_nil, [], rfl⟩
  | cons d s ih =>
    by_cases hd : d = c
    · rw [hd, splitOn_self] at h
      cases h
      exact ⟨List.not_mem_nil, d :: s, rfl⟩
    · obtain ⟨first, others, hs⟩ := exists_splitOn c s
      rw [splitOn_of_ne hd hs] at h
      obtain ⟨hnot, rest, rfl⟩ := ih hs
      cases h
      exact ⟨by simpa [Ne.symm hd] using hnot, rest, rfl⟩

/-- The pieces have all characters but the separators. -/
theorem mem_splitOn_iff {c d : Char} {s : Text} :
    (∃ piece ∈ splitOn c s, d ∈ piece) ↔ d ∈ s ∧ d ≠ c := by
  induction s with
  | nil => simp [splitOn]
  | cons e s ih =>
    by_cases he : e = c
    · rw [he, splitOn_self, List.exists_mem_cons_iff, ih, List.mem_cons]
      constructor
      · rintro (hmem | ⟨hmem, hne⟩)
        · cases hmem
        · exact ⟨.inr hmem, hne⟩
      · rintro ⟨hmem, hne⟩
        exact .inr ⟨hmem.resolve_left hne, hne⟩
    · obtain ⟨piece, pieces, hs⟩ := exists_splitOn c s
      rw [hs, List.exists_mem_cons_iff] at ih
      rw [splitOn_of_ne he hs, List.exists_mem_cons_iff, List.mem_cons, List.mem_cons, or_assoc, ih]
      constructor
      · rintro (rfl | ⟨hmem, hne⟩)
        · exact ⟨.inl rfl, he⟩
        · exact ⟨.inr hmem, hne⟩
      · rintro ⟨rfl | hmem, hne⟩
        · exact .inl rfl
        · exact .inr ⟨hmem, hne⟩

/-! ### Putting together -/

theorem notMem_of_mem_splitOn {c : Char} {s piece : Text} (h : piece ∈ splitOn c s) : c ∉ piece :=
  fun hmem => (mem_splitOn_iff.mp ⟨piece, h, hmem⟩).2 rfl

theorem splitOn_ne_nil (c : Char) (s : Text) : splitOn c s ≠ [] := by
  obtain ⟨piece, pieces, hs⟩ := exists_splitOn c s
  exact hs ▸ List.cons_ne_nil piece pieces

theorem joined_cons (separator piece : Text) {pieces : List Text} (h : pieces ≠ []) :
    joined separator (piece :: pieces) = piece ++ separator ++ joined separator pieces := by
  obtain ⟨next, rest, rfl⟩ := List.exists_cons_of_ne_nil h
  rfl

/-- A separator at the end stands for one more piece, which is empty. -/
theorem joined_append_nil (separator : Text) {pieces : List Text} (h : pieces ≠ []) :
    joined separator (pieces ++ [[]]) = joined separator pieces ++ separator := by
  induction pieces with
  | nil => exact absurd rfl h
  | cons piece pieces ih =>
    by_cases hlast : pieces = []
    · subst hlast
      exact List.append_nil _
    · rw [List.cons_append, joined_cons _ _ (List.append_ne_nil_of_left_ne_nil hlast _), ih hlast,
        joined_cons _ _ hlast, ← List.append_assoc]

theorem splitOn_eq (c : Char) (s : Text) : splitOn c s = List.splitOn c s := by
  induction s with
  | nil => rfl
  | cons d s ih =>
    rw [List.splitOn_cons_eq_if_modifyHead, ← ih]
    by_cases hd : d = c
    · simp [hd, splitOn_self]
    · obtain ⟨piece, pieces, hs⟩ := exists_splitOn c s
      simp [hd, splitOn_of_ne hd hs, hs]

theorem joined_eq (separator : Text) (pieces : List Text) :
    joined separator pieces = separator.intercalate pieces := by
  induction pieces with
  | nil => rfl
  | cons piece pieces ih =>
    cases pieces with
    | nil => simp [joined]
    | cons next rest => rw [joined_cons _ _ (List.cons_ne_nil next rest), ih, List.intercalate_cons_cons]

/-- What is put together is cut into the pieces again. -/
theorem splitOn_joined {c : Char} {pieces : List Text} (hne : pieces ≠ [])
    (h : ∀ piece ∈ pieces, c ∉ piece) : splitOn c (joined [c] pieces) = pieces := by
  rw [splitOn_eq, joined_eq, List.splitOn_intercalate c h hne]

/-- What is cut into pieces is put together again. -/
theorem joined_splitOn (c : Char) (s : Text) : joined [c] (splitOn c s) = s := by
  rw [splitOn_eq, joined_eq, List.intercalate_splitOn]

end Directives.Text
