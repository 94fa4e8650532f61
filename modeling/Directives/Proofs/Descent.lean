import Directives.Proofs.Chain

/-! The way down through parameters ends.

A chain reads a text, goes on with the parameter of its first directive if that is a
directive itself, and so on, with nothing that bounds how often. `Descent` is that walk as
it is taken, with the number of texts read. Each of them has fewer bytes than the one
before, whatever is registered, so that there is at most one more of them than the first
has bytes (`Descent.steps_le`), and what the walk comes to is what `descend` answers with
as many levels as characters (`descent_ends`). -/
namespace Directives.Directive

open Text (byteSize)

variable {σ : Type} {registry : Registry σ} {stripTabs : Bool}

/-- From `text` down, that many texts are read, and this comes of it: the first directive of each up
to the first that has no directive for its parameter, or up to a text without directives, or the
error of a text that cannot be parsed. -/
inductive Descent (registry : Registry σ) (stripTabs : Bool) :
    Nat → Text → Effects σ → Except GrammarError (List (Directive σ)) → Effects σ → Prop where
  | failed {text : Text} {e read : Effects σ} {error : GrammarError} :
      parse registry stripTabs text e = (.error error, read) →
      Descent registry stripTabs 1 text e (.error error) read
  | nothing {text : Text} {e read : Effects σ} :
      parse registry stripTabs text e = (.ok [], read) → Descent registry stripTabs 1 text e (.ok []) read
  | innermost {text : Text} {e read : Effects σ} {d : Directive σ} {others : List (Directive σ)} :
      parse registry stripTabs text e = (.ok (d :: others), read) → nestedText? d.parameter = none →
      Descent registry stripTabs 1 text e (.ok [d]) read
  | further {steps : Nat} {text inner : Text} {e between read : Effects σ} {d : Directive σ}
      {others : List (Directive σ)} {outcome : Except GrammarError (List (Directive σ))} :
      parse registry stripTabs text e = (.ok (d :: others), between) →
      nestedText? d.parameter = some inner →
      Descent registry stripTabs steps inner between outcome read →
      Descent registry stripTabs (steps + 1) text e (outcome.map (d :: ·)) read

variable {steps : Nat} {text inner : Text} {e read : Effects σ}
  {outcome : Except GrammarError (List (Directive σ))}

theorem byteSize_nestedText?_lt {between : Effects σ} {d : Directive σ} {others : List (Directive σ)}
    (h : parse registry stripTabs text e = (.ok (d :: others), between))
    (hinner : nestedText? d.parameter = some inner) : byteSize inner < byteSize text :=
  (shorter_parameter (congrArg Prod.fst h) (List.mem_cons_self ..) (nestedText?_eq_some_iff.mp hinner).1).byteSize

/-- Every text on the way has fewer bytes than the one before. -/
theorem Descent.steps_le (h : Descent registry stripTabs steps text e outcome read) :
    steps ≤ byteSize text + 1 := by
  induction h with
  | failed => exact Nat.le_add_left ..
  | nothing => exact Nat.le_add_left ..
  | innermost => exact Nat.le_add_left ..
  | further hparse hinner _ ih =>
    have hshort := byteSize_nestedText?_lt hparse hinner
    omega

/-- The walk can always be taken to its end. -/
theorem exists_descent (registry : Registry σ) (stripTabs : Bool) (text : Text) (e : Effects σ) :
    ∃ steps outcome read, Descent registry stripTabs steps text e outcome read := by
  induction hn : byteSize text using Nat.strong_induction_on generalizing text e with
  | h n ih =>
  subst hn
  cases hparse : parse registry stripTabs text e with
  | mk parsed read =>
    cases parsed with
    | error error => exact ⟨1, _, read, .failed hparse⟩
    | ok ds =>
      cases ds with
      | nil => exact ⟨1, _, read, .nothing hparse⟩
      | cons d others =>
        cases hinner : nestedText? d.parameter with
        | none => exact ⟨1, _, read, .innermost hparse hinner⟩
        | some inner =>
          obtain ⟨steps, outcome, last, hbelow⟩ := ih _ (byteSize_nestedText?_lt hparse hinner) inner read rfl
          exact ⟨steps + 1, _, last, .further hparse hinner hbelow⟩

/-- The walk comes to what is answered with as many levels as characters. -/
theorem Descent.descend_eq (h : Descent registry stripTabs steps text e outcome read) :
    descend registry stripTabs text.length text e = (outcome, read) := by
  induction h with
  | @failed text _ _ _ hparse => rw [← descend_of_le (Nat.le_succ text.length), descend_succ, hparse]
  | @nothing text _ _ hparse => rw [← descend_of_le (Nat.le_succ text.length), descend_succ, hparse]
  | @innermost text _ _ _ _ hparse hplain =>
    rw [← descend_of_le (Nat.le_succ text.length), descend_succ, hparse]
    simp only [hplain]
  | @further _ text inner _ _ _ _ _ _ hparse hinner _ ih =>
    have hshort : inner.length < text.length :=
      length_nestedText?_lt (congrArg Prod.fst hparse) (List.mem_cons_self ..) hinner
    rw [← descend_of_le (Nat.le_succ text.length), descend_succ, hparse]
    simp only [hinner, descend_of_le hshort.le, ih]

/-- **The way down through parameters ends**, whatever is registered. A text that is the parameter of a
directive has fewer bytes than the text that the directive was found in. Going on from a text to the
parameter of its first directive can be done to the end, takes at most one text more than the first one
has bytes, and comes to what is answered. -/
theorem descent_ends (registry : Registry σ) (stripTabs : Bool) (text : Text) (e : Effects σ) :
    (∀ ds, (parse registry stripTabs text e).1 = .ok ds → ∀ d ∈ ds, ∀ inner, d.parameter = .text inner →
      byteSize inner < byteSize text) ∧
    (∃ steps outcome read, Descent registry stripTabs steps text e outcome read) ∧
    ∀ steps outcome read, Descent registry stripTabs steps text e outcome read →
      steps ≤ byteSize text + 1 ∧ descend registry stripTabs text.length text e = (outcome, read) := by
  refine ⟨?_, exists_descent registry stripTabs text e, ?_⟩
  · intro ds h d hmem inner hinner
    exact (shorter_parameter h hmem hinner).byteSize
  · intro steps outcome read h
    exact ⟨h.steps_le, h.descend_eq⟩

end Directives.Directive
