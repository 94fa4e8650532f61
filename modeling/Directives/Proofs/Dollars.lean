import Directives.Proofs.Template

/-! Dollar signs beside references.

Expansion of a text comes to what its references between braces come to, and depends on no
other variables, exactly as long as no such reference is begun in it or none of its other
dollar signs is exposed (`braces_only_iff`). Where one is, and every variable is the letter
`x`, it shows in what the text comes to: in front of a name, the letter stands in its place
(`apart_of_name`); in front of another dollar sign, one of the two goes missing
(`apart_of_double`), and however the text goes on, expansion never catches up with what the
pieces come to (`apart_of_exposed`). -/
namespace Directives.Template

variable {missing : Nat} {c : Char} {s rest inner after : Text}

/-! ### Dollar signs that begin something -/

theorem expandAll_of_double (env : Valuation) (rest : Text) :
    expandAll env ('$' :: '$' :: rest) = ('$' :: ·) <$> expandAll env rest := by
  rw [expandAll]

theorem expandAll_of_name (hc : isNameChar c = true) (env : Valuation) (rest : Text) :
    ∃ name after, expandAll env ('$' :: c :: rest) = (do
      let v ← value env name none
      let expanded ← expandAll env after
      return v ++ expanded) := by
  have hbrace : c ≠ '{' := fun he => absurd (he ▸ hc) (by decide)
  have hdollar : c ≠ '$' := fun he => absurd (he ▸ hc) (by decide)
  rw [expandAll]
  · split
    next h => simp [hc] at h
    next => exact ⟨_, _, rfl⟩
  · exact fun t ht => hbrace (List.cons.inj ht).1
  · exact fun t ht => hdollar (List.cons.inj ht).1

/-- Where no reference between braces is begun, the pieces come to the text. -/
theorem fill_ofText_of_not_begun (h : ¬ ['$', '{'] <:+: s) (env : Valuation) :
    Pieces.fill env (Pieces.ofText s) = .ok s := by
  induction s with
  | nil => rw [Pieces.ofText_nil, Pieces.fill]
  | cons c rest ih =>
    have hnone : referenceAt? (c :: rest) = none := referenceAt?_eq_none fun hat => h hat.isInfix
    rw [Pieces.ofText_of_copied hnone, Pieces.fill_copied, ih fun hrest => h (List.infix_cons hrest)]
    rfl

/-! ### All variables one letter -/

/-- Every variable has a value, and it is the same letter. -/
def lettered : Valuation := fun _ => some ['x']

theorem exists_fill_lettered (ps : Pieces) : ∃ filled, Pieces.fill lettered ps = .ok filled := by
  induction ps with
  | nil => exact ⟨[], rfl⟩
  | cons p ps ih =>
    obtain ⟨filled, hfilled⟩ := ih
    cases p with
    | copied s => exact ⟨s ++ filled, by rw [Pieces.fill, hfilled]; rfl⟩
    | reference name default => exact ⟨['x'] ++ filled, by rw [Pieces.fill, hfilled]; rfl⟩

/-- What begins with the letter goes on with what comes behind it. -/
theorem exists_of_lettered {first others : Except Text Text} {result : Text} (hfirst : first = .ok ['x'])
    (h : (do
      let v ← first
      let rest ← others
      return v ++ rest) = .ok result) : ∃ rest, others = .ok rest ∧ result = 'x' :: rest := by
  obtain ⟨v, hv, h⟩ := bind_eq_ok_iff.mp h
  obtain ⟨rest, hrest, h⟩ := bind_eq_ok_iff.mp h
  cases hfirst.symm.trans hv
  exact ⟨rest, hrest, (Except.ok.inj h).symm⟩

/-- Expansion, with some dollar signs missing in front of the text, is not what the pieces come to. -/
def Apart (missing : Nat) (s : Text) : Prop :=
  ∀ expanded filled, expandAll lettered s = .ok expanded →
    Pieces.fill lettered (Pieces.ofText s) = .ok filled →
    expanded ≠ List.replicate missing '$' ++ filled

/-- Where a dollar sign is missing, no other character stands for it. -/
theorem cons_ne_replicate_append {d : Char} {expanded filled : Text} (hc : c ≠ '$')
    (h : missing = 0 → c = d → expanded ≠ filled) :
    c :: expanded ≠ List.replicate missing '$' ++ d :: filled := by
  intro heq
  cases missing with
  | zero =>
    obtain ⟨hhead, htail⟩ := List.cons.inj heq
    exact h rfl hhead htail
  | succ missing => exact hc (List.cons.inj heq).1

/-- A dollar sign behind those that are missing may as well stand in front of them. -/
theorem replicate_append_cons (missing : Nat) (filled : Text) :
    List.replicate missing '$' ++ '$' :: filled = '$' :: (List.replicate missing '$' ++ filled) := by
  rw [List.append_cons, ← List.replicate_succ', List.replicate_succ, List.cons_append]

theorem apart_nil : Apart (missing + 1) [] := by
  intro expanded filled hexpanded _ heq
  rw [expandAll] at hexpanded
  cases hexpanded
  cases heq

theorem apart_of_reference (href : referenceAt? s = some (inner, after)) (h : missing = 0 → Apart 0 after) :
    Apart missing s := by
  intro expanded filled hexpanded hfilled heq
  rw [expandAll_of_reference href] at hexpanded
  rw [Pieces.ofText_of_reference href, Pieces.fill] at hfilled
  obtain ⟨expanded', hexpanded', rfl⟩ := exists_of_lettered rfl hexpanded
  obtain ⟨filled', hfilled', rfl⟩ := exists_of_lettered rfl hfilled
  exact cons_ne_replicate_append (by decide) (fun hzero _ => h hzero _ _ hexpanded' hfilled') heq

theorem apart_of_ne (hc : c ≠ '$') (h : missing = 0 → Apart 0 rest) : Apart missing (c :: rest) := by
  intro expanded filled hexpanded hfilled heq
  rw [expandAll_of_ne _ hc] at hexpanded
  rw [Pieces.ofText_of_copied (referenceAt?_of_ne hc rest), Pieces.fill_copied] at hfilled
  obtain ⟨expanded', hexpanded', rfl⟩ := map_eq_ok_iff.mp hexpanded
  obtain ⟨filled', hfilled', rfl⟩ := map_eq_ok_iff.mp hfilled
  exact cons_ne_replicate_append hc (fun hzero _ => h hzero _ _ hexpanded' hfilled') heq

theorem apart_of_bare (href : referenceAt? ('$' :: rest) = none) (hplain : ¬ beginsPlain rest = true)
    (h : Apart missing rest) : Apart missing ('$' :: rest) := by
  intro expanded filled hexpanded hfilled heq
  rw [expandAll_of_copied href fun hboth => hplain hboth.2] at hexpanded
  rw [Pieces.ofText_of_copied href, Pieces.fill_copied] at hfilled
  obtain ⟨expanded', hexpanded', rfl⟩ := map_eq_ok_iff.mp hexpanded
  obtain ⟨filled', hfilled', rfl⟩ := map_eq_ok_iff.mp hfilled
  rw [replicate_append_cons] at heq
  exact h expanded' filled' hexpanded' hfilled' (List.cons.inj heq).2

/-- The letter stands in place of the dollar sign. -/
theorem apart_of_name (hc : isNameChar c = true) : Apart missing ('$' :: c :: rest) := by
  intro expanded filled hexpanded hfilled heq
  have hbrace : '{' ≠ c := fun he => absurd (he ▸ hc) (by decide)
  rw [Pieces.ofText_of_copied (referenceAt?_eq_none (by simp [hbrace])), Pieces.fill_copied] at hfilled
  obtain ⟨name, after, hname⟩ := expandAll_of_name hc lettered rest
  obtain ⟨expanded', -, rfl⟩ := exists_of_lettered rfl (hname.symm.trans hexpanded)
  obtain ⟨filled', -, rfl⟩ := map_eq_ok_iff.mp hfilled
  exact cons_ne_replicate_append (by decide) (fun _ hhead => absurd hhead (by decide)) heq

/-- One more dollar sign is missing, unless the second one begins a reference: of that one, the brace
is left where the letter belongs. -/
theorem apart_of_double (h : Apart (missing + 1) rest) : Apart missing ('$' :: '$' :: rest) := by
  intro expanded filled hexpanded hfilled heq
  rw [expandAll_of_double] at hexpanded
  rw [Pieces.ofText_of_copied (referenceAt?_eq_none (by simp)), Pieces.fill_copied] at hfilled
  obtain ⟨expanded', hexpanded', rfl⟩ := map_eq_ok_iff.mp hexpanded
  obtain ⟨filled', hfilled', rfl⟩ := map_eq_ok_iff.mp hfilled
  rw [replicate_append_cons] at heq
  replace heq := (List.cons.inj heq).2
  cases hsecond : referenceAt? ('$' :: rest) with
  | some found =>
    obtain ⟨inner, after⟩ := found
    obtain ⟨-, hrest⟩ := referenceAt?_eq_some_iff.mp hsecond
    rw [(List.cons.inj hrest).2, expandAll_of_ne _ (by decide)] at hexpanded'
    rw [Pieces.ofText_of_reference hsecond, Pieces.fill] at hfilled'
    obtain ⟨left, -, rfl⟩ := map_eq_ok_iff.mp hexpanded'
    obtain ⟨right, -, rfl⟩ := exists_of_lettered rfl hfilled'
    exact cons_ne_replicate_append (by decide) (fun _ hhead => absurd hhead (by decide)) heq
  | none =>
    rw [Pieces.ofText_of_copied hsecond, Pieces.fill_copied] at hfilled'
    obtain ⟨right, hright, rfl⟩ := map_eq_ok_iff.mp hfilled'
    rw [List.append_cons, ← List.replicate_succ'] at heq
    exact h expanded' right hexpanded' hright heq

theorem apart_of_beginsPlain (hplain : beginsPlain rest = true)
    (h : ∀ after, rest = '$' :: after → Apart (missing + 1) after) : Apart missing ('$' :: rest) := by
  cases rest with
  | nil => cases hplain
  | cons c rest =>
    by_cases hc : c = '$'
    · subst hc
      exact apart_of_double (h rest rfl)
    · refine apart_of_name ?_
      simpa [beginsPlain, hc] using hplain

theorem not_exposed_nil : ¬ Exposed [] := by
  rintro ⟨front, behind, heq, -⟩
  rw [Pieces.ofText_nil] at heq
  cases front <;> cases heq

/-- Expansion that dollar signs are missing in front of, or that comes to an exposed one, never
catches up. -/
theorem apart_of_exposed (h : 0 < missing ∨ Exposed s) : Apart missing s := by
  induction hn : s.length using Nat.strong_induction_on generalizing s missing with
  | h n ih =>
  subst hn
  cases s with
  | nil =>
    obtain ⟨k, rfl⟩ := Nat.exists_eq_succ_of_ne_zero (Nat.pos_iff_ne_zero.mp (h.resolve_right not_exposed_nil))
    exact apart_nil
  | cons c rest =>
    cases href : referenceAt? (c :: rest) with
    | some found =>
      obtain ⟨inner, after⟩ := found
      rw [exposed_of_reference href] at h
      refine apart_of_reference href fun hzero => ih _ (length_lt_of_referenceAt? href) ?_ rfl
      exact h.imp_left fun hlt => by omega
    | none =>
      rw [exposed_of_copied href] at h
      by_cases hc : c = '$'
      · subst hc
        by_cases hplain : beginsPlain rest = true
        · refine apart_of_beginsPlain hplain fun after hafter => ih _ ?_ (.inl (Nat.succ_pos missing)) rfl
          rw [hafter, List.length_cons, List.length_cons]
          omega
        · refine apart_of_bare href hplain (ih _ (Nat.lt_succ_self _) ?_ rfl)
          simpa [hplain] using h
      · refine apart_of_ne hc fun hzero => ih _ (Nat.lt_succ_self _) ?_ rfl
        simpa [hc, hzero] using h

/-! ### Only what stands between braces -/

theorem expand_eq_fill (h : ['$', '{'] <:+: s → ¬ Exposed s) (env : Valuation) :
    expand env s = Pieces.fill env (Pieces.ofText s) := by
  by_cases hpart : ['$', '{'] <:+: s
  · rw [expand_of_begun hpart, expandAll_eq_fill (h hpart)]
  · rw [expand_of_not_begun hpart, fill_ofText_of_not_begun hpart]

theorem expand_lettered_ne (hpart : ['$', '{'] <:+: s) (h : Exposed s) :
    expand lettered s ≠ Pieces.fill lettered (Pieces.ofText s) := by
  intro heq
  obtain ⟨filled, hfilled⟩ := exists_fill_lettered (Pieces.ofText s)
  rw [hfilled, expand_of_begun hpart] at heq
  have hapart : Apart 0 s := apart_of_exposed (.inr h)
  exact hapart filled filled heq hfilled rfl

/-- **Where only what stands between braces is expanded.** A text comes to its own characters with the
values of its references between braces put in, and only the variables that they name matter, in
every environment, exactly where no such reference is begun or no other dollar sign is exposed. -/
theorem braces_only_iff (s : Text) :
    ((∀ env, expand env s = Pieces.fill env (Pieces.ofText s)) ∧
      ∀ env env', (∀ name ∈ Pieces.names (Pieces.ofText s), env name = env' name) →
        expand env s = expand env' s) ↔
    (['$', '{'] <:+: s → ¬ Exposed s) := by
  constructor
  · intro h hpart hexposed
    exact expand_lettered_ne hpart hexposed (h.1 lettered)
  · intro h
    refine ⟨expand_eq_fill h, fun env env' hnames => ?_⟩
    rw [expand_eq_fill h, expand_eq_fill h, Pieces.fill_congr hnames]

/-- A reference beside a dollar sign in front of a digit: the digit is taken for a variable. -/
theorem bare_dollar_expanded :
    (¬ ∀ env s, expand env s = Pieces.fill env (Pieces.ofText s)) ∧
      ¬ ∀ env env' s, (∀ name ∈ Pieces.names (Pieces.ofText s), env name = env' name) →
        expand env s = expand env' s := by
  let env : Valuation := fun name => if name = ['A'] then some ['x'] else none
  let s : Text := ['s', '/', '$', '{', 'A', '}', '/', '$', '1', '/']
  have herror : expand env s = .error ['1'] := by decide +kernel
  have hfill : Pieces.fill env (Pieces.ofText s) = .ok ['s', '/', 'x', '/', '$', '1', '/'] := by decide +kernel
  have hlettered : expand lettered s = .ok ['s', '/', 'x', '/', 'x', '/'] := by decide +kernel
  have hnames : Pieces.names (Pieces.ofText s) = [['A']] := by decide +kernel
  constructor
  · intro h
    have heq := h env s
    rw [herror, hfill] at heq
    cases heq
  · intro h
    have heq := h env lettered s (by rw [hnames]; decide)
    rw [herror, hlettered] at heq
    cases heq

end Directives.Template
