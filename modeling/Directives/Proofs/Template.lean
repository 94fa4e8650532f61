import Directives.Config.Template
import Directives.Proofs.Text
import Directives.Proofs.Traverse

/-! The pieces of a text with references to environment variables.

A text is cut at its references between braces, and every other character is a piece of
its own (`Pieces.ofText`), so that nothing of the text is lost (`text_ofText`). Pieces
come to what is copied and to the values of what is referred to, one behind the other
(`Pieces.fill`). Expansion goes through the text once and finds these pieces, as long as
no dollar sign outside of them begins something else: as long as none is `Exposed`
(`expandAll_eq_fill`). -/
namespace Directives

namespace Text

theorem cutAt?_append {c : Char} {before : Text} (h : c ∉ before) (behind : Text) :
    cutAt? c (before ++ c :: behind) = some (before, behind) := by
  induction before with
  | nil => simp [cutAt?]
  | cons d before ih =>
    have hne : d ≠ c := fun he => h (he ▸ List.mem_cons_self ..)
    rw [List.cons_append, cutAt?, if_neg hne, ih fun hm => h (List.mem_cons_of_mem d hm)]
    rfl

theorem notMem_of_cutAt? {c : Char} {s before behind : Text} (h : cutAt? c s = some (before, behind)) :
    c ∉ before := by
  induction s generalizing before with
  | nil => cases h
  | cons d s ih =>
    rw [cutAt?] at h
    by_cases hd : d = c
    · rw [if_pos hd] at h
      cases h
      exact List.not_mem_nil
    · rw [if_neg hd] at h
      obtain ⟨⟨b, e⟩, hcut, heq⟩ := Option.map_eq_some_iff.mp h
      cases heq
      exact List.not_mem_cons_of_ne_of_not_mem (Ne.symm hd) (ih hcut)

/-- A cut is made at the first place of the character. -/
theorem cutAt?_eq_some_iff {c : Char} {s before behind : Text} :
    cutAt? c s = some (before, behind) ↔ c ∉ before ∧ s = before ++ c :: behind := by
  constructor
  · exact fun h => ⟨notMem_of_cutAt? h, eq_of_cutAt? h⟩
  · rintro ⟨h, rfl⟩
    exact cutAt?_append h behind

theorem hasPart_iff {part s : Text} : hasPart part s = true ↔ part <:+: s := by
  induction s with
  | nil => rw [hasPart, List.isEmpty_iff, List.infix_nil]
  | cons c s ih => rw [hasPart, Bool.or_eq_true, List.isPrefixOf_iff_prefix, ih, List.infix_cons_iff]

end Text

namespace Template

/-! ### Pieces -/

/-- A piece of a text. -/
inductive Piece where
  | copied (s : Text)
  /-- `${name}`, or `${name:-default}`. -/
  | reference (name : Text) (default : Option Text)
  deriving DecidableEq, Repr

namespace Piece

/-- How the piece is written. -/
def text : Piece → Text
  | copied s => s
  | reference name none => '$' :: '{' :: (name ++ ['}'])
  | reference name (some default) => '$' :: '{' :: (name ++ ':' :: '-' :: (default ++ ['}']))

/-- What the piece comes to, or the variable that it needs and that has no value. -/
def fill (env : Valuation) : Piece → Except Text Text
  | copied s => .ok s
  | reference name default => value env name default

end Piece

abbrev Pieces := List Piece

namespace Pieces

/-- The text of the pieces. -/
def text (ps : Pieces) : Text :=
  ps.flatMap Piece.text

/-- What the pieces come to, or the first variable that is needed and has no value. -/
def fill (env : Valuation) : Pieces → Except Text Text
  | [] => .ok []
  | p :: ps => do
    let v ← p.fill env
    let filled ← fill env ps
    return v ++ filled

theorem fill_copied (env : Valuation) (c : Char) (ps : Pieces) :
    fill env (.copied [c] :: ps) = (c :: ·) <$> fill env ps := by
  rw [fill]
  cases fill env ps <;> rfl

/-- The variables that the pieces refer to. -/
def names (ps : Pieces) : List Text :=
  ps.filterMap fun
    | .copied _ => none
    | .reference name _ => some name

/-- No other variables matter. -/
theorem fill_congr {env env' : Valuation} {ps : Pieces} (h : ∀ name ∈ names ps, env name = env' name) :
    fill env ps = fill env' ps := by
  induction ps with
  | nil => rfl
  | cons p ps ih =>
    cases p with
    | copied s => rw [fill, fill, ih h]; rfl
    | reference name default =>
      have hname : env name = env' name := h name (List.mem_cons_self ..)
      have hrest := ih fun n hn => h n (List.mem_cons_of_mem name hn)
      rw [fill, fill, hrest, Piece.fill, Piece.fill, value, value, hname]

end Pieces

/-! ### References -/

/-- The reference between braces at the start of a text, and what is behind it. -/
def referenceAt? (s : Text) : Option (Text × Text) :=
  (Text.after? ['$', '{'] s).bind (Text.cutAt? '}')

theorem referenceAt?_eq_some_iff {s inner after : Text} :
    referenceAt? s = some (inner, after) ↔ '}' ∉ inner ∧ s = '$' :: '{' :: (inner ++ '}' :: after) := by
  simp only [referenceAt?, Option.bind_eq_some_iff, Text.after?_eq_some_iff, Text.cutAt?_eq_some_iff]
  constructor
  · rintro ⟨_, rfl, hnot, rfl⟩
    exact ⟨hnot, rfl⟩
  · rintro ⟨hnot, rfl⟩
    exact ⟨_, rfl, hnot, rfl⟩

theorem referenceAt?_eq_none {s : Text} (h : ¬ ['$', '{'] <+: s) : referenceAt? s = none := by
  rw [Option.eq_none_iff_forall_ne_some]
  rintro ⟨inner, after⟩ href
  exact h ⟨inner ++ '}' :: after, (referenceAt?_eq_some_iff.mp href).2.symm⟩

theorem referenceAt?_of_ne {c : Char} (hc : c ≠ '$') (rest : Text) : referenceAt? (c :: rest) = none :=
  referenceAt?_eq_none (by simp [Ne.symm hc])

theorem length_lt_of_referenceAt? {s inner after : Text} (h : referenceAt? s = some (inner, after)) :
    after.length < s.length := by
  obtain ⟨-, rfl⟩ := referenceAt?_eq_some_iff.mp h
  simp only [List.length_cons, List.length_append]
  omega

theorem eq_of_split {s name default : Text} (h : reference.split s = some (name, default)) :
    s = name ++ ':' :: '-' :: default := by
  fun_induction reference.split s generalizing name with
  | case1 => cases h
  | case2 rest =>
    cases h
    rfl
  | case3 c cs _ ih =>
    obtain ⟨⟨n, d⟩, hsplit, heq⟩ := Option.map_eq_some_iff.mp h
    cases heq
    rw [ih hsplit, List.cons_append]

/-- The piece of what stands between the braces of a reference. -/
def referring (inner : Text) : Piece :=
  .reference (reference inner).1 (reference inner).2

/-- A reference is written as it was read. -/
theorem text_referring (inner : Text) : (referring inner).text = '$' :: '{' :: (inner ++ ['}']) := by
  unfold referring reference
  split
  next => rfl
  next => rfl
  next name default hsplit => simp [Piece.text, eq_of_split hsplit]

/-! ### Taking a text apart -/

/-- The references between braces of a text, and the characters outside of them. -/
def Pieces.ofText : Text → Pieces
  | [] => []
  | c :: rest =>
    match _h : referenceAt? (c :: rest) with
    | some (inner, after) => referring inner :: ofText after
    | none => .copied [c] :: ofText rest
  termination_by s => s.length
  decreasing_by
    · exact length_lt_of_referenceAt? _h
    · exact Nat.lt_succ_self rest.length

namespace Pieces

theorem ofText_nil : ofText [] = [] := by
  rw [ofText]

theorem ofText_of_reference {s inner after : Text} (h : referenceAt? s = some (inner, after)) :
    ofText s = referring inner :: ofText after := by
  cases s with
  | nil => cases h
  | cons c rest =>
    rw [ofText]
    split
    next hsome =>
      rw [h] at hsome
      cases hsome
      rfl
    next hnone =>
      rw [h] at hnone
      cases hnone

theorem ofText_of_copied {c : Char} {rest : Text} (h : referenceAt? (c :: rest) = none) :
    ofText (c :: rest) = .copied [c] :: ofText rest := by
  rw [ofText]
  split
  next hsome =>
    rw [h] at hsome
    cases hsome
  next => rfl

/-- The pieces make up the text. -/
theorem text_ofText (s : Text) : text (ofText s) = s := by
  induction s using ofText.induct with
  | case1 => rw [ofText_nil]; rfl
  | case2 c rest inner after h ih =>
    rw [ofText_of_reference h]
    show (referring inner).text ++ text (ofText after) = c :: rest
    rw [ih, text_referring, (referenceAt?_eq_some_iff.mp h).2]
    simp
  | case3 c rest h ih =>
    rw [ofText_of_copied h]
    show c :: text (ofText rest) = c :: rest
    rw [ih]

end Pieces

/-! ### Dollar signs outside of references -/

/-- Whether a text goes on behind a dollar sign with another one or with a name. -/
def beginsPlain : Text → Bool
  | [] => false
  | c :: _ => c == '$' || isNameChar c

/-- A dollar sign that is no reference between braces stands in front of another one or of a name. -/
def Exposed (s : Text) : Prop :=
  ∃ front behind, Pieces.ofText s = front ++ .copied ['$'] :: behind ∧ beginsPlain (Pieces.text behind) = true

theorem exposed_of_reference {s inner after : Text} (h : referenceAt? s = some (inner, after)) :
    Exposed s ↔ Exposed after := by
  unfold Exposed
  rw [Pieces.ofText_of_reference h]
  constructor
  · rintro ⟨front, behind, heq, hplain⟩
    cases front with
    | nil => cases (List.cons.inj heq).1
    | cons p front => exact ⟨front, behind, (List.cons.inj heq).2, hplain⟩
  · rintro ⟨front, behind, heq, hplain⟩
    exact ⟨referring inner :: front, behind, by rw [heq, List.cons_append], hplain⟩

theorem exposed_of_copied {c : Char} {rest : Text} (h : referenceAt? (c :: rest) = none) :
    Exposed (c :: rest) ↔ c = '$' ∧ beginsPlain rest = true ∨ Exposed rest := by
  unfold Exposed
  rw [Pieces.ofText_of_copied h]
  constructor
  · rintro ⟨front, behind, heq, hplain⟩
    cases front with
    | nil =>
      obtain ⟨hpiece, rfl⟩ := List.cons.inj heq
      cases hpiece
      rw [Pieces.text_ofText] at hplain
      exact .inl ⟨rfl, hplain⟩
    | cons p front => exact .inr ⟨front, behind, (List.cons.inj heq).2, hplain⟩
  · rintro (⟨rfl, hplain⟩ | ⟨front, behind, heq, hplain⟩)
    · exact ⟨[], Pieces.ofText rest, rfl, by rwa [Pieces.text_ofText]⟩
    · exact ⟨.copied [c] :: front, behind, by rw [heq, List.cons_append], hplain⟩

/-! ### Going through a text -/

theorem expandAll_of_ne (env : Valuation) {c : Char} (hc : c ≠ '$') (rest : Text) :
    expandAll env (c :: rest) = (c :: ·) <$> expandAll env rest := by
  rw [expandAll]
  · exact fun _ h _ => hc h
  · exact fun _ h _ => hc h
  · exact hc

theorem expandAll_of_reference {s inner after : Text} (h : referenceAt? s = some (inner, after))
    (env : Valuation) : expandAll env s = (do
      let v ← (referring inner).fill env
      let expanded ← expandAll env after
      return v ++ expanded) := by
  obtain ⟨hnot, rfl⟩ := referenceAt?_eq_some_iff.mp h
  have hcut := Text.cutAt?_append hnot after
  rw [expandAll]
  split
  next hsome =>
    rw [hcut] at hsome
    cases hsome
    rfl
  next hnone =>
    rw [hcut] at hnone
    cases hnone

/-- A dollar sign in front of a brace that is never closed. -/
theorem expandAll_of_open {rest : Text} (h : Text.cutAt? '}' rest = none) (env : Valuation) :
    expandAll env ('$' :: '{' :: rest) = ('$' :: ·) <$> expandAll env ('{' :: rest) := by
  rw [expandAll_of_ne env (by decide) rest, expandAll]
  split
  next hsome =>
    rw [h] at hsome
    cases hsome
  next => cases expandAll env rest <;> rfl

/-- A dollar sign in front of nothing that it could begin. -/
theorem expandAll_of_bare {rest : Text} (hbrace : rest.head? ≠ some '{') (hplain : beginsPlain rest = false)
    (env : Valuation) : expandAll env ('$' :: rest) = ('$' :: ·) <$> expandAll env rest := by
  have hname : rest.takeWhile isNameChar = [] := by
    cases rest with
    | nil => rfl
    | cons c rest =>
      rw [beginsPlain, Bool.or_eq_false_iff] at hplain
      simp [hplain.2]
  rw [expandAll]
  · split
    next => rfl
    next hne => exact absurd hname hne
  · rintro t rfl
    exact hbrace rfl
  · rintro t rfl
    cases hplain

theorem expandAll_of_copied {c : Char} {rest : Text} (h : referenceAt? (c :: rest) = none)
    (hplain : ¬ (c = '$' ∧ beginsPlain rest = true)) (env : Valuation) :
    expandAll env (c :: rest) = (c :: ·) <$> expandAll env rest := by
  by_cases hc : c = '$'
  · subst hc
    by_cases hbrace : rest.head? = some '{'
    · obtain ⟨t, rfl⟩ := List.head?_eq_some_iff.mp hbrace
      exact expandAll_of_open h env
    · exact expandAll_of_bare hbrace (by simpa using hplain) env
  · exact expandAll_of_ne env hc rest

/-- Where no dollar sign is exposed, expansion comes to what the pieces come to. -/
theorem expandAll_eq_fill {s : Text} (h : ¬ Exposed s) (env : Valuation) :
    expandAll env s = Pieces.fill env (Pieces.ofText s) := by
  induction s using Pieces.ofText.induct with
  | case1 => rw [expandAll, Pieces.ofText_nil, Pieces.fill]
  | case2 c rest inner after href ih =>
    rw [exposed_of_reference href] at h
    rw [expandAll_of_reference href, Pieces.ofText_of_reference href, ih h, Pieces.fill]
  | case3 c rest hnone ih =>
    rw [exposed_of_copied hnone, not_or] at h
    rw [expandAll_of_copied hnone h.1, Pieces.ofText_of_copied hnone, ih h.2, Pieces.fill_copied]

theorem expand_of_begun {s : Text} (h : ['$', '{'] <:+: s) (env : Valuation) :
    expand env s = expandAll env s := by
  rw [expand, if_pos (Text.hasPart_iff.mpr h)]

theorem expand_of_not_begun {s : Text} (h : ¬ ['$', '{'] <:+: s) (env : Valuation) :
    expand env s = .ok s := by
  rw [expand, if_neg (mt Text.hasPart_iff.mp h)]

end Template
end Directives
