import Directives.Proofs.Template
import Directives.Proofs.Loading

/-! Texts of literals and references.

A template is written as literals without dollar signs and references between braces; its
`proper` pieces are what a reader would take it apart into. Expanding it is piecewise
(`expandAll_text`): a reference is read up to the first closing brace and cut at the first
`:-`, which are its own, and what it stands for is put down without a further look. So a
template comes to its literals, the values of its variables and the defaults of those without
one, or the first variable is answered that has neither (`expand_text`). Of several templates
the first one with such a variable is named in the error (`expandElements_templates`). -/
namespace Directives

namespace Template

/-! ### Templates -/

/-- What can stand for a variable between braces, with or without a default behind it. -/
structure IsVariable (name : Text) : Prop where
  ne_nil : name ≠ []
  brace_notMem : '}' ∉ name
  undivided : ¬ [':', '-'] <:+: name

/-- A piece that can be told from what stands around it. -/
def Piece.Proper : Piece → Prop
  | copied s => '$' ∉ s
  | reference name none => IsVariable name
  | reference name (some default) => IsVariable name ∧ '}' ∉ default

/-- The variable that the piece needs and that has no value. -/
def Piece.unset? (env : Valuation) : Piece → Option Text
  | copied _ | reference _ (some _) => none
  | reference name none => if env name = none then some name else none

/-- What the piece stands for where it needs no variable without a value. -/
def Piece.filled (env : Valuation) : Piece → Text
  | copied s => s
  | reference name default => (env name).getD (default.getD [])

end Template

/-- A text of literals and references. -/
structure Template where
  pieces : Template.Pieces
  proper : ∀ p ∈ pieces, p.Proper

namespace Template

variable {env : Valuation}

/-- How the template is written. -/
def text (t : Template) : Text :=
  t.pieces.text

/-- The first variable that the template needs and that has no value. -/
def unset? (env : Valuation) (t : Template) : Option Text :=
  t.pieces.findSome? (Piece.unset? env)

/-- The literals of the template, with the values and the defaults between them. -/
def filled (env : Valuation) (t : Template) : Text :=
  t.pieces.flatMap (Piece.filled env)

/-! ### What is read between braces -/

theorem split_eq_none {name : Text} (h : ¬ [':', '-'] <:+: name) : reference.split name = none := by
  induction name with
  | nil => rfl
  | cons c name ih =>
    rw [reference.split, ih fun hname => h (List.infix_cons hname)]
    · rfl
    · rintro rest rfl rfl
      exact h ⟨[], rest, rfl⟩

/-- The first `:-` is the one behind the name. -/
theorem split_append {name : Text} (h : ¬ [':', '-'] <:+: name) (default : Text) :
    reference.split (name ++ ':' :: '-' :: default) = some (name, default) := by
  induction name with
  | nil => rfl
  | cons c name ih =>
    rw [List.cons_append, reference.split, ih fun hname => h (List.infix_cons hname)]
    · rfl
    · intro rest hc hrest
      cases name with
      | nil => cases hrest
      | cons d name =>
        obtain ⟨rfl, -⟩ := List.cons.inj hrest
        exact h ⟨[], name, by rw [hc]; rfl⟩

/-- A proper reference is read as it was written. -/
theorem exists_inner {name : Text} {default : Option Text} (h : (Piece.reference name default).Proper) :
    ∃ inner, '}' ∉ inner ∧ referring inner = .reference name default := by
  cases default with
  | none =>
    refine ⟨name, h.brace_notMem, ?_⟩
    rw [referring, reference, split_eq_none h.undivided]
  | some default =>
    obtain ⟨hname, hdefault⟩ := h
    refine ⟨name ++ ':' :: '-' :: default, by simp [hname.brace_notMem, hdefault], ?_⟩
    obtain ⟨c, rest, rfl⟩ := List.exists_cons_of_ne_nil hname.ne_nil
    rw [referring, reference, split_append hname.undivided]

/-! ### Expansion piece by piece -/

theorem expandAll_append {s : Text} (h : '$' ∉ s) (rest : Text) :
    expandAll env (s ++ rest) = (s ++ ·) <$> expandAll env rest := by
  induction s with
  | nil =>
    rw [List.nil_append]
    cases expandAll env rest <;> rfl
  | cons c s ih =>
    rw [List.mem_cons, not_or] at h
    rw [List.cons_append, expandAll_of_ne env (Ne.symm h.1), ih h.2]
    cases expandAll env rest <;> rfl

/-- What a piece comes to does not depend on what is behind it. -/
theorem expandAll_piece {p : Piece} (h : p.Proper) (rest : Text) :
    expandAll env (p.text ++ rest) = (do
      let v ← p.fill env
      let expanded ← expandAll env rest
      return v ++ expanded) := by
  cases p with
  | copied s =>
    rw [Piece.text, expandAll_append h]
    cases expandAll env rest <;> rfl
  | reference name default =>
    obtain ⟨inner, hbrace, hinner⟩ := exists_inner h
    have href : referenceAt? ((Piece.reference name default).text ++ rest) = some (inner, rest) :=
      referenceAt?_eq_some_iff.mpr ⟨hbrace, by rw [← hinner, text_referring]; simp⟩
    rw [expandAll_of_reference href, hinner]

theorem expandAll_text {ps : Pieces} (h : ∀ p ∈ ps, p.Proper) : expandAll env ps.text = ps.fill env := by
  induction ps with
  | nil =>
    show expandAll env [] = .ok []
    rw [expandAll]
  | cons p ps ih =>
    rw [List.forall_mem_cons] at h
    show expandAll env (p.text ++ Pieces.text ps) = _
    rw [expandAll_piece h.1, ih h.2, Pieces.fill]

/-- Without a reference nothing is there to be filled in. -/
theorem fill_of_not_begun {ps : Pieces} (h : ¬ ['$', '{'] <:+: ps.text) : ps.fill env = .ok ps.text := by
  induction ps with
  | nil => rfl
  | cons p ps ih =>
    have htext : Pieces.text (p :: ps) = p.text ++ Pieces.text ps := rfl
    rw [htext] at h ⊢
    rw [Pieces.fill, ih fun hrest => h (hrest.trans (List.suffix_append _ _).isInfix)]
    cases p with
    | copied s => rfl
    | reference name default =>
      cases default with
      | none => exact absurd ⟨[], _, rfl⟩ h
      | some default => exact absurd ⟨[], _, rfl⟩ h

theorem Piece.fill_eq (p : Piece) : p.fill env = match p.unset? env with
    | some name => .error name
    | none => .ok (p.filled env) := by
  cases p with
  | copied s => rfl
  | reference name default =>
    cases hvalue : env name with
    | some v => cases default <;> simp [Piece.fill, value, Piece.unset?, Piece.filled, hvalue]
    | none => cases default <;> simp [Piece.fill, value, Piece.unset?, Piece.filled, hvalue]

/-- Pieces are filled one by one, and the first that cannot be is the whole's error. -/
theorem Pieces.fill_eq (ps : Pieces) : ps.fill env = match ps.findSome? (Piece.unset? env) with
    | some name => .error name
    | none => .ok (ps.flatMap (Piece.filled env)) := by
  induction ps with
  | nil => rfl
  | cons p ps ih =>
    rw [Pieces.fill, Piece.fill_eq, ih, List.findSome?_cons]
    cases p.unset? env with
    | some name => rfl
    | none => cases ps.findSome? (Piece.unset? env) <;> rfl

theorem expand_text (env : Valuation) (t : Template) : expand env t.text = match t.unset? env with
    | some name => .error name
    | none => .ok (t.filled env) := by
  have hfill : expand env t.text = t.pieces.fill env := by
    by_cases h : ['$', '{'] <:+: t.text
    · rw [expand_of_begun h, text, expandAll_text t.proper]
    · rw [expand_of_not_begun h, text, fill_of_not_begun h]
  rw [hfill, Pieces.fill_eq]
  rfl

/-- What a variable stands for is put down as it is. -/
example : expand (fun _ => some ['$', '{', 'B', '}']) ['a', '$', '{', 'A', ':', '-', 'd', '}'] =
    .ok ['a', '$', '{', 'B', '}'] := by
  decide +kernel

theorem expand_text_eq_ok_iff {t : Template} {result : Text} :
    expand env t.text = .ok result ↔ t.unset? env = none ∧ t.filled env = result := by
  rw [expand_text]
  cases t.unset? env with
  | some name => simp
  | none => simp

theorem expand_text_eq_error_iff {t : Template} {name : Text} :
    expand env t.text = .error name ↔ t.unset? env = some name := by
  rw [expand_text]
  cases t.unset? env with
  | some name => simp
  | none => simp

end Template

namespace Config

variable {env : Template.Valuation} {field : Text}

theorem expandElements_cons_of_error {value name : Text} (h : Template.expand env value = .error name)
    (index : Nat) (values : List Text) : expandElements env field index (value :: values) =
      .error (.unsetVariable (element field index) name) := by
  rw [expandElements, expandField, h]
  rfl

theorem expandElements_cons_of_ok {value result : Text} (h : Template.expand env value = .ok result)
    (index : Nat) (values : List Text) : expandElements env field index (value :: values) =
      (result :: ·) <$> expandElements env field (index + 1) values := by
  rw [expandElements, expandField, h]
  cases expandElements env field (index + 1) values <;> rfl

/-- The first element that cannot be expanded is the one that is named. -/
theorem expandElements_eq_error_iff {index : Nat} {values : List Text} {e : Error} :
    expandElements env field index values = .error e ↔
      ∃ before value after name, values = before ++ value :: after ∧
        (∀ v ∈ before, ∃ result, Template.expand env v = .ok result) ∧
        Template.expand env value = .error name ∧
        e = .unsetVariable (element field (index + before.length)) name := by
  constructor
  · intro h
    induction values generalizing index with
    | nil => cases h
    | cons value values ih =>
      cases hexpand : Template.expand env value with
      | error name =>
        rw [expandElements_cons_of_error hexpand] at h
        cases h
        exact ⟨[], value, values, name, rfl, nofun, hexpand, rfl⟩
      | ok result =>
        rw [expandElements_cons_of_ok hexpand] at h
        cases hothers : expandElements env field (index + 1) values with
        | ok others => rw [hothers] at h; cases h
        | error e' =>
          rw [hothers] at h
          cases h
          obtain ⟨before, value', after, name, rfl, hbefore, hvalue, rfl⟩ := ih hothers
          refine ⟨value :: before, value', after, name, rfl, ?_, hvalue, ?_⟩
          · exact List.forall_mem_cons.mpr ⟨⟨result, hexpand⟩, hbefore⟩
          · rw [List.length_cons, Nat.add_assoc, Nat.add_comm 1]
  · rintro ⟨before, value, after, name, rfl, hbefore, hvalue, rfl⟩
    induction before generalizing index with
    | nil => exact expandElements_cons_of_error hvalue index after
    | cons v before ih =>
      rw [List.forall_mem_cons] at hbefore
      obtain ⟨result, hresult⟩ := hbefore.1
      rw [List.cons_append, expandElements_cons_of_ok hresult, ih hbefore.2, List.length_cons, Nat.add_assoc,
        Nat.add_comm 1]
      rfl

/-- The message shows the reference that has no value. -/
theorem reference_infix_message (field name : Text) :
    (Template.Piece.reference name none).text <:+: (Error.unsetVariable field name).message := by
  have hopened : ": $\x7b".toList = ": ".toList ++ ['$', '{'] := by decide
  have hclosed : "\x7d not set".toList = ['}'] ++ " not set".toList := by decide
  have hmessage : (Error.unsetVariable field name).message =
      ("Environment variable error in ".toList ++ field ++ ": ".toList) ++
        (Template.Piece.reference name none).text ++ " not set".toList := by
    show "Environment variable error in ".toList ++ field ++ ": $\x7b".toList ++ name ++
      "\x7d not set".toList = _
    rw [hopened, hclosed, Template.Piece.text]
    simp only [List.append_assoc, List.cons_append, List.nil_append]
  rw [hmessage]
  exact List.infix_append _ _ _

/-- **Templates are expanded one by one, and piece by piece.** Each comes to its literals with the
values and the defaults of its variables between them; else the first that needs a variable without a
value is the error's element, and the first such variable in it is named, and shown in the message. -/
theorem expandElements_templates (env : Template.Valuation) (field : Text) (templates : List Template) :
    (∀ results, expandElements env field 0 (templates.map Template.text) = .ok results ↔
      (∀ t ∈ templates, t.unset? env = none) ∧ results = templates.map (Template.filled env)) ∧
    ∀ e, expandElements env field 0 (templates.map Template.text) = .error e ↔
      ∃ before t after name, templates = before ++ t :: after ∧
        (∀ u ∈ before, u.unset? env = none) ∧ t.unset? env = some name ∧
        e = .unsetVariable (element field before.length) name ∧
        (Template.Piece.reference name none).text <:+: e.message := by
  constructor
  · intro results
    rw [expandElements_eq_ok_iff, List.forall₂_map_left_iff]
    simp only [Template.expand_text_eq_ok_iff]
    rw [List.forall₂_and_left, ← List.forall₂_map_left_iff (R := Eq), List.forall₂_eq_eq_eq, eq_comm]
  · intro e
    rw [expandElements_eq_error_iff]
    constructor
    · rintro ⟨before, value, after, name, hvalues, hbefore, hvalue, rfl⟩
      obtain ⟨first, others, rfl, rfl, hothers⟩ := List.map_eq_append_iff.mp hvalues
      obtain ⟨t, last, rfl, rfl, rfl⟩ := List.map_eq_cons_iff.mp hothers
      rw [List.length_map, Nat.zero_add]
      refine ⟨first, t, last, name, rfl, fun u hu => ?_, Template.expand_text_eq_error_iff.mp hvalue, rfl,
        reference_infix_message _ name⟩
      · obtain ⟨result, hresult⟩ := hbefore _ (List.mem_map_of_mem hu)
        exact (Template.expand_text_eq_ok_iff.mp hresult).1
    · rintro ⟨before, t, after, name, rfl, hbefore, ht, rfl, -⟩
      refine ⟨before.map Template.text, t.text, after.map Template.text, name, List.map_append, ?_,
        Template.expand_text_eq_error_iff.mpr ht, ?_⟩
      · intro v hv
        obtain ⟨u, hu, rfl⟩ := List.mem_map.mp hv
        exact ⟨_, Template.expand_text_eq_ok_iff.mpr ⟨hbefore u hu, rfl⟩⟩
      · rw [List.length_map, Nat.zero_add]

end Config
end Directives
