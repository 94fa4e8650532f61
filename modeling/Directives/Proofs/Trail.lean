import Directives.Proofs.Chain
import Mathlib.Logic.Relation

/-! The trail of a chain.

A chain knows the directive it starts from and those it reads on the way. It executes
only what it knows, and where a start tracks a command that command was not tracked
(`Trail.Step`). Every run of a chain leaves such a trail, also one that fails, and
where it has an answer the last step executes the directive itself
(`chainWith_runs`). -/
namespace Directives.Directive

variable {σ : Type} {registry : Registry σ}

/-- The directives that a text is read as, none where reading fails. -/
def readIn (registry : Registry σ) (stripTabs : Bool) (text : Text) (e : Effects σ) :
    List (Directive σ) :=
  (parse registry stripTabs text e).1.toOption.getD []

/-- What is read are the tokens of the text, bound to what is registered. -/
theorem readIn_of_ofText {stripTabs : Bool} {text : Text} {tokens : List Token}
    (h : Token.ofText stripTabs text = .ok tokens) (e : Effects σ) :
    readIn registry stripTabs text e = tokens.map (bound registry stripTabs text) := by
  rw [readIn, parse_of_ofText h]
  rfl

theorem exists_bound_of_readIn {stripTabs : Bool} {text : Text} {e : Effects σ} {d : Directive σ}
    (h : d ∈ readIn registry stripTabs text e) : ∃ token, d = bound registry stripTabs text token := by
  cases htokens : Token.ofText stripTabs text with
  | error error =>
    rw [readIn, parse_fst, htokens] at h
    cases h
  | ok tokens =>
    rw [readIn_of_ofText htokens] at h
    obtain ⟨token, -, hd⟩ := List.mem_map.mp h
    exact ⟨token, hd.symm⟩

/-- How far a chain has come: the directives it knows, the commands that started one and the
effects. -/
structure Trail (σ : Type) where
  known : List (Directive σ)
  state : ChainState
  effects : Effects σ

namespace Trail

/-- One thing that a chain does. -/
inductive Step (registry : Registry σ) : Trail σ → Trail σ → Prop where
  | parse (stripTabs : Bool) (text : Text) (known : List (Directive σ)) (state : ChainState)
      (e : Effects σ) :
      Step registry ⟨known, state, e⟩
        ⟨known ++ readIn registry stripTabs text e, state, (parse registry stripTabs text e).2⟩
  | report (event : Event) (known : List (Directive σ)) (state : ChainState) (e : Effects σ) :
      Step registry ⟨known, state, e⟩ ⟨known, state, (report event e).2⟩
  | execute {known : List (Directive σ)} {d : Directive σ} (v : Value) (state : ChainState)
      (e : Effects σ) : d ∈ known →
      Step registry ⟨known, state, e⟩ ⟨known, state, (d.execute registry (some v) e).2⟩
  | start {known : List (Directive σ)} {d : Directive σ} {state : ChainState} (e : Effects σ) :
      d ∈ known → state.isTracked d.command = false →
      Step registry ⟨known, state, e⟩ ⟨known, state.track d.command, e⟩

/-- Any number of steps. -/
abbrev Steps (registry : Registry σ) : Trail σ → Trail σ → Prop :=
  Relation.ReflTransGen (Step registry)

variable {a b : Trail σ}

/-- A step forgets no directive, and what is new was read on the way. -/
theorem Step.known (h : Step registry a b) : a.known ⊆ b.known ∧ ∀ d ∈ b.known, d ∈ a.known ∨
    ∃ stripTabs text token, d = bound registry stripTabs text token := by
  cases h with
  | parse stripTabs text known state e =>
    refine ⟨List.subset_append_left .., fun d hd => ?_⟩
    rcases List.mem_append.mp hd with hd | hd
    · exact .inl hd
    · obtain ⟨token, htoken⟩ := exists_bound_of_readIn hd
      exact .inr ⟨stripTabs, text, token, htoken⟩
  | report | execute | start => exact ⟨fun _ hd => hd, fun _ hd => .inl hd⟩

/-- Nor do steps, and all that is new is bound to what is registered. -/
theorem Steps.known (h : Steps registry a b) : a.known ⊆ b.known ∧ ∀ d ∈ b.known, d ∈ a.known ∨
    ∃ stripTabs text token, d = bound registry stripTabs text token := by
  induction h with
  | refl => exact ⟨fun _ hd => hd, fun _ hd => .inl hd⟩
  | tail _ hstep ih =>
    refine ⟨List.Subset.trans ih.1 hstep.known.1, fun d hd => ?_⟩
    exact (hstep.known.2 d hd).elim (ih.2 d) .inr

/-- Going down through parameters is reading one text after the other, and what is found there is
read. -/
theorem exists_steps_of_descend (registry : Registry σ) (stripTabs : Bool) (levels : Nat) (text : Text)
    (known : List (Directive σ)) (state : ChainState) (e : Effects σ) :
    ∃ known', Steps registry ⟨known, state, e⟩
        ⟨known', state, (descend registry stripTabs levels text e).2⟩ ∧
      ∀ below, (descend registry stripTabs levels text e).1 = .ok below → below ⊆ known' := by
  induction levels generalizing text known e with
  | zero =>
    refine ⟨known, .refl, fun below h => ?_⟩
    cases h
    exact List.nil_subset known
  | succ levels ih =>
    have hparse : Step registry ⟨known, state, e⟩
        ⟨known ++ readIn registry stripTabs text e, state, (parse registry stripTabs text e).2⟩ :=
      .parse stripTabs text known state e
    rw [descend_succ]
    rw [readIn] at hparse
    generalize parse registry stripTabs text e = run at hparse ⊢
    obtain ⟨outcome, after⟩ := run
    match outcome, hparse with
    | .error error, hparse => exact ⟨_, .single hparse, nofun⟩
    | .ok [], hparse =>
      refine ⟨_, .single hparse, fun below h => ?_⟩
      cases h
      exact List.nil_subset _
    | .ok (d :: ds), hparse =>
      have hd : d ∈ known ++ d :: ds := List.mem_append_right known (List.mem_cons_self ..)
      simp only
      cases nestedText? d.parameter with
      | none =>
        refine ⟨known ++ d :: ds, .single hparse, fun below h => ?_⟩
        cases h
        exact List.cons_subset.mpr ⟨hd, List.nil_subset _⟩
      | some inner =>
        obtain ⟨known', hsteps, hread⟩ := ih inner (known ++ d :: ds) after
        refine ⟨known', .head hparse hsteps, fun below h => ?_⟩
        simp only at h
        cases hbelow : (descend registry stripTabs levels inner after).1 with
        | error error => rw [hbelow] at h; cases h
        | ok rest =>
          rw [hbelow] at h
          cases h
          exact List.cons_subset.mpr ⟨hsteps.known.1 hd, hread rest hbelow⟩

/-- All that is found on the way down is bound to what is registered. -/
theorem exists_bound_of_descend {stripTabs : Bool} {levels : Nat} {text : Text} {e : Effects σ}
    {below : List (Directive σ)} (h : (descend registry stripTabs levels text e).1 = .ok below)
    {d : Directive σ} (hd : d ∈ below) :
    ∃ stripTabs text token, d = bound registry stripTabs text token := by
  obtain ⟨known, hsteps, hread⟩ := exists_steps_of_descend registry stripTabs levels text [] {} e
  exact (hsteps.known.2 d (hread below h hd)).resolve_left List.not_mem_nil

/-! ### Runs -/

/-- A run of a chain on `d` that leaves a trail from `a`: it goes by steps, and an answer is that
of the last one, an execution of `d`. -/
def Runs (registry : Registry σ) (d : Directive σ) (a : Trail σ) (run : Chained × Effects σ) : Prop :=
  ∃ known, Steps registry a ⟨known, run.1.2, run.2⟩ ∧ ∀ v, run.1.1 = .ok v →
    ∃ r before, Steps registry a ⟨known, run.1.2, before⟩ ∧ d.execute registry (some r) before = (v, run.2)

/-- Steps that end with an execution of the directive. -/
theorem runs_of_execute {d : Directive σ} {known : List (Directive σ)} {state : ChainState}
    {before : Effects σ} (h : Steps registry a ⟨known, state, before⟩) (hd : d ∈ known)
    (override : Option Value) :
    Runs registry d a ((.ok (d.execute registry override before).1, state),
      (d.execute registry override before).2) := by
  refine ⟨known, h.tail (.execute (override.getD d.parameter) state before hd), fun v hv => ?_⟩
  obtain rfl := Except.ok.inj hv
  exact ⟨override.getD d.parameter, before, h, rfl⟩

/-- Steps may come before a run. -/
theorem Runs.of_steps {d : Directive σ} {run : Chained × Effects σ} (h : Steps registry a b)
    (hrun : Runs registry d b run) : Runs registry d a run := by
  obtain ⟨known, hsteps, hlast⟩ := hrun
  refine ⟨known, h.trans hsteps, fun v hv => ?_⟩
  obtain ⟨r, before, hbefore, hexecute⟩ := hlast v hv
  exact ⟨r, before, h.trans hbefore, hexecute⟩

/-- Where each call leaves a trail, calls one after the other do. -/
theorem exists_steps_of_feed {call : Directive σ → Value → ChainState → Act σ Chained}
    {ds : List (Directive σ)}
    (hcall : ∀ d ∈ ds, ∀ v known state e, d ∈ known → Runs registry d ⟨known, state, e⟩ (call d v state e))
    (v : Value) {known : List (Directive σ)} (hds : ds ⊆ known) (state : ChainState) (e : Effects σ) :
    ∃ known', Steps registry ⟨known, state, e⟩
      ⟨known', (feed call ds v state e).1.2, (feed call ds v state e).2⟩ := by
  induction ds generalizing v known state e with
  | nil => exact ⟨known, .refl⟩
  | cons d ds ih =>
    obtain ⟨hd, hds⟩ := List.cons_subset.mp hds
    obtain ⟨known', hone, -⟩ := hcall d (List.mem_cons_self ..) v known state e hd
    have hrest := ih fun x hx => hcall x (List.mem_cons_of_mem d hx)
    rw [feed_cons]
    generalize call d v state e = run at hone ⊢
    obtain ⟨⟨outcome, after⟩, e'⟩ := run
    cases outcome with
    | error error => exact ⟨known', hone⟩
    | ok w =>
      obtain ⟨known'', hsteps⟩ := hrest w (List.Subset.trans hds hone.known.1) after e'
      exact ⟨known'', hone.trans hsteps⟩

/-- Calls one after the other end as the last of them does. -/
theorem feed_runs {call : Directive σ → Value → ChainState → Act σ Chained} {ds : List (Directive σ)}
    {d : Directive σ}
    (hcall : ∀ x ∈ ds ++ [d], ∀ v known state e, x ∈ known →
      Runs registry x ⟨known, state, e⟩ (call x v state e))
    (v : Value) {known : List (Directive σ)} (hds : ds ++ [d] ⊆ known) (state : ChainState)
    (e : Effects σ) : Runs registry d ⟨known, state, e⟩ (feed call (ds ++ [d]) v state e) := by
  obtain ⟨hds, hd⟩ := List.append_subset.mp hds
  obtain ⟨known', hbefore⟩ :=
    exists_steps_of_feed (fun x hx => hcall x (List.mem_append_left [d] hx)) v hds state e
  have hlast := hcall d (List.mem_append_right ds (List.mem_singleton_self d))
  rw [feed_concat]
  generalize feed call ds v state e = run at hbefore ⊢
  obtain ⟨⟨outcome, after⟩, e'⟩ := run
  cases outcome with
  | error error => exact ⟨known', hbefore, nofun⟩
  | ok w =>
    have hknown : d ∈ known' := hbefore.known.1 (hd (List.mem_singleton_self d))
    exact (hlast w known' after e' hknown).of_steps hbefore

end Trail

open Trail in
/-- Every run of a chain leaves a trail and ends with its directive. -/
theorem chainWith_runs (registry : Registry σ) (depth : Nat) {d : Directive σ} (override : Option Value)
    {known : List (Directive σ)} (hd : d ∈ known) (state : ChainState) (e : Effects σ) :
    Runs registry d ⟨known, state, e⟩ (chainWith registry depth d override state e) := by
  induction depth generalizing d override known state e with
  | zero => exact ⟨known, .refl, nofun⟩
  | succ depth ih =>
    cases htext : nestedText? (override.getD d.parameter) with
    | none =>
      rw [chainWith_of_plain registry htext]
      exact runs_of_execute .refl hd override
    | some t =>
      cases htracked : state.isTracked d.command with
      | true =>
        rw [chainWith_of_tracked registry htext htracked]
        exact runs_of_execute (.single (.report ..)) hd override
      | false =>
        obtain ⟨known', hdescend, hread⟩ :=
          exists_steps_of_descend registry d.stripTabs t.length t known (state.track d.command) e
        have hstart : Steps registry ⟨known, state, e⟩ ⟨known', state.track d.command,
            (descend registry d.stripTabs t.length t e).2⟩ := .head (.start e hd htracked) hdescend
        rw [chainWith_of_starting htext htracked]
        generalize descend registry d.stripTabs t.length t e = read at hstart hread ⊢
        obtain ⟨outcome, e'⟩ := read
        cases outcome with
        | error error => exact ⟨known', hstart, nofun⟩
        | ok below =>
          have hstack : below.reverse ++ [d] ⊆ known' := by
            have hsubset : d :: below ⊆ known' :=
              List.cons_subset.mpr ⟨hstart.known.1 hd, hread below rfl⟩
            rwa [← List.reverse_cons, List.reverse_subset]
          have hreported := hstart.tail (.report (.chainResolved d.command (below.length + 1)) ..)
          simp only [List.reverse_cons]
          exact (feed_runs (fun x _ v known state e hx => ih (some v) hx state e) _ hstack ..).of_steps
            hreported

end Directives.Directive
