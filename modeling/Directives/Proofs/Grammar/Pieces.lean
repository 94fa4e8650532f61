import Directives.Grammar.Marker
import Directives.Grammar.Name
import Directives.Proofs.Text

/-! The pieces of a directive: its name and the comment markers around it.

A name is read where it stands and ends (`Name.read?_eq_some_iff`). A marker is
passed over with its white space or not at all, and what may be passed over is
said without the reader: `Leading`, `Floating`. No piece holds an `@`, so that an
`@` in a directive is the one of its opener or of its closer. -/
namespace Directives

/-! ### Names -/

namespace Name

theorem toNat_of_isChar {c : Char} (h : isChar c = true) :
    c.toNat = 45 ∨ (48 ≤ c.toNat ∧ c.toNat ≤ 57) ∨ (97 ≤ c.toNat ∧ c.toNat ≤ 122) := by
  have h : ((decide (c.val ≥ 97) && decide (c.val ≤ 122)) || (decide (c.val ≥ 48) && decide (c.val ≤ 57)) ||
      c == '-') = true := h
  simp only [Bool.or_eq_true, Bool.and_eq_true, decide_eq_true_eq, beq_iff_eq, ge_iff_le,
    UInt32.le_iff_toNat_le] at h
  rcases h with (h | h) | rfl
  · exact .inr (.inr h)
  · exact .inr (.inl h)
  · exact .inl rfl

theorem not_blank_of_isChar {c : Char} (h : isChar c = true) : isBlank c = false := by
  have hn := toNat_of_isChar h
  simp only [isBlank, Bool.or_eq_false_iff, Bool.and_eq_false_iff, decide_eq_false_iff_not,
    beq_eq_false_iff_ne]
  omega

theorem allLetterOrDigit_of_isSegment {s : Text} (h : isSegment s = true) :
    ∀ c ∈ s, isLetterOrDigit c = true := by
  match s, h with
  | first :: second :: rest, h =>
    simp only [isSegment, Bool.and_eq_true, List.all_eq_true] at h
    intro c hc
    rcases List.mem_cons.mp hc with rfl | hc
    · simp [isLetterOrDigit, h.1]
    · exact h.2 c hc

/-- A text whose pieces are letters and digits is made of name characters. -/
theorem isChar_of_pieces {s : Text}
    (h : ∀ piece ∈ Text.splitOn '-' s, ∀ c ∈ piece, isLetterOrDigit c = true) :
    ∀ c ∈ s, isChar c = true := by
  induction s with
  | nil => intro c hc; cases hc
  | cons d s ih =>
    intro c hc
    rw [Text.splitOn] at h
    by_cases hd : d = '-'
    · rw [if_pos hd] at h
      rcases List.mem_cons.mp hc with rfl | hc
      · simp [isChar, hd]
      · exact ih (fun piece hp => h piece (List.mem_cons_of_mem _ hp)) c hc
    · rw [if_neg hd] at h
      cases hs : Text.splitOn '-' s with
      | nil =>
        rw [hs] at h ih
        rcases List.mem_cons.mp hc with rfl | hc
        · simp [isChar, h [c] (by simp) c (by simp)]
        · exact ih (fun piece hp => nomatch hp) c hc
      | cons piece pieces =>
        rw [hs] at h ih
        have hfirst := h (d :: piece) (List.mem_cons_self ..)
        rcases List.mem_cons.mp hc with rfl | hc
        · simp [isChar, hfirst c (List.mem_cons_self ..)]
        · refine ih (fun p hp => ?_) c hc
          rcases List.mem_cons.mp hp with rfl | hp
          · exact fun e he => hfirst e (List.mem_cons_of_mem _ he)
          · exact h p (List.mem_cons_of_mem _ hp)

end Name

theorem isChar_of_isName {name : Text} (h : isName name = true) :
    ∀ c ∈ name, Name.isChar c = true :=
  Name.isChar_of_pieces fun piece hp =>
    Name.allLetterOrDigit_of_isSegment (List.all_eq_true.mp h piece hp)

theorem notMem_of_isName {name : Text} (h : isName name = true) {c : Char}
    (hc : Name.isChar c = false) : c ∉ name := by
  intro hmem
  rw [isChar_of_isName h c hmem] at hc
  exact Bool.noConfusion hc

/-- A name is read where the whole run of name characters is one. -/
theorem Name.read?_eq_some_iff {s name rest : Text} :
    Name.read? s = some (name, rest) ↔
      isName name = true ∧ s = name ++ rest ∧ ∀ c ∈ rest.head?, Name.isChar c = false := by
  constructor
  · intro h
    simp only [Name.read?] at h
    split at h
    next hname =>
      obtain ⟨rfl, rfl⟩ := Prod.mk.inj (Option.some.inj h)
      refine ⟨hname, List.takeWhile_append_dropWhile.symm, fun c hc => ?_⟩
      have hne : s.dropWhile Name.isChar ≠ [] := by
        rintro hnil
        rw [hnil] at hc
        cases hc
      have hhead := List.head_dropWhile_not Name.isChar hne
      rw [List.head?_eq_some_head hne] at hc
      cases hc
      exact hhead
    next => cases h
  · rintro ⟨hname, rfl, hrest⟩
    have hchars := isChar_of_isName hname
    have hnone : rest.takeWhile Name.isChar = [] ∧ rest.dropWhile Name.isChar = rest := by
      cases rest with
      | nil => exact ⟨rfl, rfl⟩
      | cons c rest =>
        have hc : Name.isChar c = false := hrest c rfl
        simp [hc]
    simp only [Name.read?]
    rw [List.takeWhile_append_of_pos hchars, List.dropWhile_append_of_pos hchars, hnone.1, hnone.2,
      List.append_nil, if_pos hname]

/-! ### Markers -/

namespace Marker

/-- Nothing, or one of the markers and white space behind it. -/
inductive Leading (markers : List Text) : Text → Prop where
  | none : Leading markers []
  | some {marker blank : Text} : marker ∈ markers → Text.AllBlank blank →
      Leading markers (marker ++ blank)

/-- Nothing, or the marker and white space on both its sides. -/
inductive Floating (marker : Text) : Text → Prop where
  | none : Floating marker []
  | some {before behind : Text} : Text.AllBlank before → Text.AllBlank behind →
      Floating marker (before ++ marker ++ behind)

/-- All markers. -/
def all : List Text := [htmlOpen, htmlClose, lineOpen, starOpen, starClose]

theorem trimStart_marker {marker : Text} (h : marker ∈ all) (s : Text) :
    Text.trimStart (marker ++ s) = marker ++ s := by
  simp only [all, List.mem_cons, List.not_mem_nil, or_false] at h
  rcases h with rfl | rfl | rfl | rfl | rfl <;> exact Text.trimStart_cons (by decide) _

theorem skip?_append (marker s : Text) : skip? marker (marker ++ s) = some (Text.trimStart s) := by
  rw [skip?, Text.after?_eq_some_iff.mpr rfl]
  rfl

theorem skip?_eq_some {marker s rest : Text} (h : skip? marker s = some rest) :
    ∃ a, Leading [marker] a ∧ s = a ++ rest := by
  obtain ⟨t, ht, rfl⟩ := Option.map_eq_some_iff.mp h
  refine ⟨marker ++ Text.leadingBlank t, .some (List.mem_singleton.mpr rfl)
    (Text.leadingBlank_allBlank t), ?_⟩
  rw [List.append_assoc, Text.leadingBlank_append_trimStart]
  exact Text.after?_eq_some_iff.mp ht

/-- What is passed over is the marker with white space behind it. -/
theorem exists_skip (marker s : Text) : ∃ a, Leading [marker] a ∧ s = a ++ skip marker s := by
  cases h : skip? marker s with
  | none => exact ⟨[], .none, by simp [skip, h]⟩
  | some rest => simpa [skip, h] using skip?_eq_some h

/-- What is passed over is the marker with white space on both its sides. -/
theorem exists_skipFloating (marker s : Text) :
    ∃ a, Floating marker a ∧ s = a ++ skipFloating marker s := by
  cases h : skip? marker (Text.trimStart s) with
  | none => exact ⟨[], .none, by simp [skipFloating, h]⟩
  | some rest =>
    obtain ⟨t, ht, rfl⟩ := Option.map_eq_some_iff.mp h
    refine ⟨Text.leadingBlank s ++ marker ++ Text.leadingBlank t,
      .some (Text.leadingBlank_allBlank s) (Text.leadingBlank_allBlank t), ?_⟩
    rw [skipFloating, h, Option.getD_some, List.append_assoc, List.append_assoc,
      Text.leadingBlank_append_trimStart, ← Text.after?_eq_some_iff.mp ht,
      Text.leadingBlank_append_trimStart]

/-- Where a marker stands, it is passed over with its white space. -/
theorem skip_append {marker a s : Text} (ha : Leading [marker] a) (hs : Text.trimStart s = s)
    (hn : Text.after? marker s = none) : skip marker (a ++ s) = s := by
  cases ha with
  | none => simp [skip, skip?, hn]
  | some hm hb =>
    rw [List.mem_singleton.mp hm, List.append_assoc, skip, skip?_append,
      Text.trimStart_of_blank hb, hs]
    rfl

theorem skipFloating_append {marker before : Text} (hm : marker ∈ all)
    (hb : Text.AllBlank before) (s : Text) :
    skipFloating marker (before ++ marker ++ s) = Text.trimStart s := by
  rw [List.append_assoc, skipFloating, Text.trimStart_of_blank hb, trimStart_marker hm,
    skip?_append, Option.getD_some]

theorem skipFloating_of_none {marker s : Text}
    (hn : Text.after? marker (Text.trimStart s) = none) : skipFloating marker s = s := by
  simp [skipFloating, skip?, hn]

theorem trimEnd_floating {marker behind : Text} (hm : marker ∈ all) (hb : Text.AllBlank behind)
    (before : Text) : Text.trimEnd (before ++ marker ++ behind) = before ++ marker := by
  have hself : Text.trimEnd marker = marker ∧ marker ≠ [] := by
    simp only [all, List.mem_cons, List.not_mem_nil, or_false] at hm
    rcases hm with rfl | rfl | rfl | rfl | rfl <;> decide
  have hne : Text.trimEnd marker ≠ [] := by
    rw [hself.1]
    exact hself.2
  rw [Text.trimEnd_of_blank _ hb, Text.trimEnd_of_ne_nil hne, hself.1]

theorem Floating.trimEnd {marker s : Text} (h : Floating marker s) (hm : marker ∈ all) :
    Floating marker (Text.trimEnd s) := by
  cases h with
  | none => exact .none
  | @some before behind hb ha =>
    rw [trimEnd_floating hm ha, ← List.append_nil (before ++ marker)]
    exact .some hb Text.allBlank_nil

theorem Leading.mono {markers more : List Text} {s : Text} (h : Leading markers s)
    (hsub : ∀ marker ∈ markers, marker ∈ more) : Leading more s := by
  cases h with
  | none => exact .none
  | some hm hb => exact .some (hsub _ hm) hb

theorem Leading.notMem {markers : List Text} {s : Text} {c : Char} (h : Leading markers s)
    (hc : isBlank c = false) (hm : ∀ marker ∈ markers, c ∉ marker) : c ∉ s := by
  cases h with
  | none => exact List.not_mem_nil
  | some hmem hb =>
    exact List.not_mem_append (hm _ hmem) (hb.notMem hc)

theorem Floating.notMem {marker s : Text} {c : Char} (h : Floating marker s)
    (hc : isBlank c = false) (hm : c ∉ marker) : c ∉ s := by
  cases h with
  | none => exact List.not_mem_nil
  | some hb ha =>
    exact List.not_mem_append (List.not_mem_append (hb.notMem hc) hm) (ha.notMem hc)

theorem Leading.withoutTabs {markers : List Text} {s : Text} (h : Leading markers s)
    (hm : ∀ marker ∈ markers, '\t' ∉ marker) : Leading markers (Text.withoutTabs s) := by
  cases h with
  | none => exact .none
  | some hmem hb =>
    rw [Text.withoutTabs_append, Text.withoutTabs_eq_self (hm _ hmem)]
    exact .some hmem hb.withoutTabs

theorem Floating.withoutTabs {marker s : Text} (h : Floating marker s) (hm : '\t' ∉ marker) :
    Floating marker (Text.withoutTabs s) := by
  cases h with
  | none => exact .none
  | some hb ha =>
    rw [Text.withoutTabs_append, Text.withoutTabs_append, Text.withoutTabs_eq_self hm]
    exact .some hb.withoutTabs ha.withoutTabs

end Marker

end Directives
