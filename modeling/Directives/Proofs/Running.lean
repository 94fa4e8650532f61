import Directives.Builtin
import Directives.Proofs.Override
import Directives.Run

/-! What a run depends on.

A directive keeps the text around it, and a chain parses and calls with state in
hand. With commands that do nothing beside answering none of this reaches the
answer: two directives with the same command and the same parameter come to the
same, whatever texts they stand in (`Twins.chainWith_eq`). A run takes the
directives of a text in order, up to the first that fails (`runAll_cases`). -/
namespace Directives

/-! ### Commands that only answer -/

/-- No command of the registry does anything beside answering. -/
def Registry.Pure {σ : Type} (r : Registry σ) : Prop :=
  ∀ c ∈ r.commands, c.Pure

theorem Registry.Pure.of_resolve? {σ : Type} {r : Registry σ} (h : r.Pure) {name : Text} {c : Command σ}
    (hc : r.resolve? name = some c) : c.Pure :=
  h c (List.mem_of_find?_eq_some hc)

/-- A registered command was there before or is one of those that were added. -/
theorem Registry.mem_of_mem_registerAll {σ : Type} {r : Registry σ} {commands : List (Command σ)}
    {c : Command σ} (h : c ∈ (r.registerAll commands).commands) : c ∈ r.commands ∨ c ∈ commands := by
  induction commands generalizing r with
  | nil => exact .inl h
  | cons first commands ih =>
    rcases ih h with h | h
    · rcases List.mem_cons.mp h with rfl | h
      · exact .inr (List.mem_cons_self ..)
      · exact .inl (List.mem_of_mem_filter h)
    · exact .inr (List.mem_cons_of_mem first h)

theorem Builtin.function_pure {σ : Type} (name : Text) (f : Value → Value) :
    (function name f : Command σ).Pure :=
  ⟨f, fun _ _ => rfl⟩

/-- The built-in commands do nothing beside answering. -/
theorem Builtin.registry_pure {σ : Type} : (registry : Registry σ).Pure := by
  intro c hc
  rcases Registry.mem_of_mem_registerAll hc with hc | hc
  · cases hc
  · simp only [List.mem_cons, List.not_mem_nil, or_false] at hc
    rcases hc with rfl | rfl | rfl | rfl <;> exact function_pure _ _

namespace Directive

variable {σ : Type} {registry : Registry σ} {stripTabs : Bool}

/-! ### The same answer twice -/

/-- Two directives that differ in where they stand at most, bound to no command that does anything
beside answering. -/
structure Twins (a b : Directive σ) : Prop where
  command : a.command = b.command
  parameter : a.parameter = b.parameter
  binding : a.binding = b.binding
  stripTabs : a.stripTabs = b.stripTabs
  pure : ∀ c, a.binding = some c → c.Pure

/-- What a directive is bound to when it is parsed is what its command names. -/
theorem binding_of_parse {text : Text} {e : Effects σ} {ds : List (Directive σ)} {d : Directive σ}
    (h : (parse registry stripTabs text e).1 = .ok ds) (hmem : d ∈ ds) :
    d.binding = registry.resolve? d.command ∧ d.stripTabs = stripTabs := by
  obtain ⟨tokens, -, rfl⟩ := parse_eq_ok_iff.mp h
  obtain ⟨token, -, rfl⟩ := List.mem_map.mp hmem
  exact ⟨rfl, rfl⟩

theorem twins_of_parse (hpure : registry.Pure) {text text' : Text} {e e' : Effects σ}
    {as bs : List (Directive σ)} (has : (parse registry stripTabs text e).1 = .ok as)
    (hbs : (parse registry stripTabs text' e').1 = .ok bs) {a b : Directive σ} (ha : a ∈ as) (hb : b ∈ bs)
    (hcommand : a.command = b.command) (hparameter : a.parameter = b.parameter) : Twins a b := by
  obtain ⟨hbinding, htabs⟩ := binding_of_parse has ha
  obtain ⟨hbinding', htabs'⟩ := binding_of_parse hbs hb
  refine ⟨hcommand, hparameter, ?_, htabs.trans htabs'.symm, fun c hc => ?_⟩
  · rw [hbinding, hbinding', hcommand]
  · exact hpure.of_resolve? (hbinding.symm.trans hc)

theorem Twins.execute_eq (hpure : registry.Pure) {a b : Directive σ} (h : Twins a b)
    (override : Option Value) (e e' : Effects σ) :
    (a.execute registry override e).1 = (b.execute registry override e').1 := by
  have hcalled : ∀ c, (b.binding <|> registry.resolve? b.command) = some c → c.Pure := by
    intro c hc
    rw [Option.orElse_eq_orElse, Option.orElse_eq_or, Option.or_eq_some_iff] at hc
    rcases hc with hc | ⟨-, hc⟩
    · exact h.pure c (h.binding.trans hc)
    · exact hpure.of_resolve? hc
  unfold execute
  rw [h.command, h.parameter, h.binding]
  cases hcommand : b.binding <|> registry.resolve? b.command with
  | none => rfl
  | some c =>
    obtain ⟨f, hf⟩ := hcalled c hcommand
    simp only [hf]

/-- The same directives are found on the way down, whatever the effects so far are. -/
theorem descend_fst (registry : Registry σ) (stripTabs : Bool) (levels : Nat) (t : Text) (e e' : Effects σ) :
    (descend registry stripTabs levels t e).1 = (descend registry stripTabs levels t e').1 := by
  induction levels generalizing t e e' with
  | zero => rfl
  | succ levels ih =>
    have hsame : (parse registry stripTabs t e).1 = (parse registry stripTabs t e').1 := by
      rw [parse_fst, parse_fst]
    rw [descend_succ, descend_succ]
    generalize parse registry stripTabs t e = read at hsame ⊢
    generalize parse registry stripTabs t e' = read' at hsame ⊢
    obtain ⟨outcome, after⟩ := read
    obtain ⟨outcome', after'⟩ := read'
    obtain rfl : outcome = outcome' := hsame
    cases outcome with
    | error error => rfl
    | ok ds =>
      cases ds with
      | nil => rfl
      | cons d ds =>
        simp only
        cases nestedText? d.parameter with
        | none => rfl
        | some inner => simp only [ih inner after after']

/-- The directives on the way down are their own twins. -/
theorem twins_of_descend (hpure : registry.Pure) {levels : Nat} {t : Text}
    {e : Effects σ} {below : List (Directive σ)}
    (h : (descend registry stripTabs levels t e).1 = .ok below) : ∀ d ∈ below, Twins d d :=
  forall_of_descend (fun _ _ _ _ hds _ hd =>
    ⟨twins_of_parse hpure hds hds hd hd rfl rfl, fun _ _ => Set.mem_univ _⟩) (Set.mem_univ t) h

/-- Twins called one after the other, in two runs, come to the same. -/
theorem feed_twins {call : Directive σ → Value → ChainState → Act σ Chained}
    (hcall : ∀ a b, Twins a b → ∀ v state e e', (call a v state e).1 = (call b v state e').1)
    {as bs : List (Directive σ)} (h : List.Forall₂ Twins as bs) (v : Value) (state : ChainState)
    (e e' : Effects σ) : (feed call as v state e).1 = (feed call bs v state e').1 := by
  induction h generalizing v state e e' with
  | nil => rfl
  | @cons a b as bs hhead _ ih =>
    have hsame := hcall a b hhead v state e e'
    rw [feed_cons, feed_cons]
    generalize call a v state e = called at hsame ⊢
    generalize call b v state e' = called' at hsame ⊢
    obtain ⟨outcome, after⟩ := called
    obtain ⟨outcome', after'⟩ := called'
    obtain rfl : outcome = outcome' := hsame
    obtain ⟨answer, next⟩ := outcome
    cases answer with
    | error error => rfl
    | ok w => exact ih w next after after'

/-- Twins come to the same, in two runs with effects of their own. -/
theorem Twins.chainWith_eq (hpure : registry.Pure) {a b : Directive σ} (h : Twins a b)
    (depth : Nat) (override : Option Value) (state : ChainState) (e e' : Effects σ) :
    (chainWith registry depth a override state e).1 = (chainWith registry depth b override state e').1 := by
  induction depth generalizing a b override state e e' with
  | zero => rfl
  | succ depth ih =>
    cases htext : nestedText? (override.getD a.parameter) with
    | none =>
      have htext' : nestedText? (override.getD b.parameter) = none := h.parameter ▸ htext
      rw [chainWith_of_plain registry htext, chainWith_of_plain registry htext',
        h.execute_eq hpure override e e']
    | some t =>
      have htext' : nestedText? (override.getD b.parameter) = some t := h.parameter ▸ htext
      cases htracked : state.isTracked a.command with
      | true =>
        rw [chainWith_of_tracked registry htext htracked,
          chainWith_of_tracked registry htext' (h.command ▸ htracked),
          h.execute_eq hpure override _ (report (.alreadyChaining b.command) e').2]
      | false =>
        rw [chainWith_of_starting htext htracked, chainWith_of_starting htext' (h.command ▸ htracked),
          ← h.command, ← h.stripTabs]
        have hsame := descend_fst registry a.stripTabs t.length t e e'
        have hbelow : ∀ below, (descend registry a.stripTabs t.length t e).1 = .ok below →
            ∀ d ∈ below, Twins d d := fun _ => twins_of_descend hpure
        generalize descend registry a.stripTabs t.length t e = down at hsame hbelow ⊢
        generalize descend registry a.stripTabs t.length t e' = down' at hsame ⊢
        obtain ⟨outcome, after⟩ := down
        obtain ⟨outcome', after'⟩ := down'
        obtain rfl : outcome = outcome' := hsame
        cases outcome with
        | error error => rfl
        | ok below =>
          have hinnermost : (below.getLast?.getD a).parameter = (below.getLast?.getD b).parameter := by
            cases below.getLast? with
            | none => exact h.parameter
            | some innermost => rfl
          -- the stacks differ in the outermost directive alone
          have hstack : List.Forall₂ Twins (a :: below).reverse (b :: below).reverse :=
            List.rel_reverse (.cons h (List.forall₂_same.mpr (hbelow below rfl)))
          simp only [hinnermost]
          exact feed_twins (fun x y hxy v state e e' => ih hxy (some v) state e e') hstack _ _ _ _

/-! ### One directive after the other -/

/-- Execute a directive on its own parameter, after the directives in it if `chain` is set. -/
def run (registry : Registry σ) (chain : Bool) (d : Directive σ) : Act σ (Except ChainFailure Value) :=
  if chain then d.chain registry none else .ok <$> d.execute registry none

theorem Twins.run_eq (hpure : registry.Pure) {a b : Directive σ} (h : Twins a b)
    (chain : Bool) (e e' : Effects σ) : (a.run registry chain e).1 = (b.run registry chain e').1 := by
  cases chain with
  | true =>
    show (chainWith registry chainDepth a none {} e).1.1 = (chainWith registry chainDepth b none {} e').1.1
    rw [h.chainWith_eq hpure chainDepth none {} e e']
  | false => exact congrArg Except.ok (h.execute_eq hpure none e e')

/-- Directives are run one after the other, each on the effects that the one before has left. -/
inductive Runs (registry : Registry σ) (chain : Bool) :
    List (Directive σ) → Effects σ → List Outcome → Effects σ → Prop where
  | nil {e : Effects σ} : Runs registry chain [] e [] e
  | cons {d : Directive σ} {ds : List (Directive σ)} {v : Value} {outcomes : List Outcome}
      {e between after : Effects σ} : d.run registry chain e = (.ok v, between) →
      Runs registry chain ds between outcomes after →
      Runs registry chain (d :: ds) e (⟨d.command, d.token.matched, d.isResolved, v⟩ :: outcomes) after

theorem runAll_cons (registry : Registry σ) (chain : Bool) (d : Directive σ) (ds : List (Directive σ))
    (e : Effects σ) : runAll registry chain (d :: ds) e =
      match d.run registry chain e with
      | (.error failure, e) => (.error failure, e)
      | (.ok v, e) =>
        ((runAll registry chain ds e).1.map (⟨d.command, d.token.matched, d.isResolved, v⟩ :: ·),
          (runAll registry chain ds e).2) := by
  have houtcome : d.outcome registry chain e =
      ((d.run registry chain e).1.map fun v => ⟨d.command, d.token.matched, d.isResolved, v⟩,
        (d.run registry chain e).2) := by cases chain <;> rfl
  rw [runAll, Act.bind_apply, houtcome]
  obtain ⟨outcome, e⟩ := d.run registry chain e
  cases outcome <;> rfl

/-- Either all directives are run or those in front of one that fails. -/
theorem runAll_cases (registry : Registry σ) (chain : Bool) (ds : List (Directive σ)) (e : Effects σ) :
    (∃ outcomes after, runAll registry chain ds e = (.ok outcomes, after) ∧
      Runs registry chain ds e outcomes after) ∨
    ∃ front d back outcomes between failure after, ds = front ++ d :: back ∧
      Runs registry chain front e outcomes between ∧
      d.run registry chain between = (.error failure, after) ∧
      runAll registry chain ds e = (.error failure, after) := by
  induction ds generalizing e with
  | nil => exact .inl ⟨[], e, rfl, .nil⟩
  | cons d ds ih =>
    cases hrun : d.run registry chain e with
    | mk outcome between =>
      cases outcome with
      | error failure =>
        refine .inr ⟨[], d, ds, [], e, failure, between, rfl, .nil, hrun, ?_⟩
        rw [runAll_cons, hrun]
      | ok v =>
        rcases ih between with ⟨outcomes, after, hall, hruns⟩ |
          ⟨front, x, back, outcomes, last, failure, after, rfl, hruns, hfails, hall⟩
        · refine .inl ⟨_, after, ?_, .cons hrun hruns⟩
          rw [runAll_cons, hrun]
          simp only [hall]
          rfl
        · refine .inr ⟨d :: front, x, back, _, last, failure, after, rfl, .cons hrun hruns, hfails, ?_⟩
          rw [runAll_cons, hrun]
          simp only [hall]
          rfl

/-- **A run does not depend on the text around a directive.** With commands that do nothing beside
answering, directives of any two texts that have the same command and the same parameter come to the
same, whatever has been run before. And a run gives one outcome for each directive of the text, in
order, or the failure of the first directive that fails, or of parsing. -/
theorem runText_independent (registry : Registry σ) (stripTabs chain : Bool) :
    (registry.Pure → ∀ text text' e e' as bs,
      (parse registry stripTabs text e).1 = .ok as → (parse registry stripTabs text' e').1 = .ok bs →
      ∀ a ∈ as, ∀ b ∈ bs, a.command = b.command → a.parameter = b.parameter →
        a.isResolved = b.isResolved ∧ ∀ e e',
          (a.run registry chain e).1 = (b.run registry chain e').1 ∧
          ∀ depth, (chainWith registry depth a none {} e).1 = (chainWith registry depth b none {} e').1) ∧
    ∀ text e, match parse registry stripTabs text e with
      | (.error error, after) => runText registry stripTabs chain text e = (.error (.grammar error), after)
      | (.ok ds, read) =>
        (∃ outcomes after, runText registry stripTabs chain text e = (.ok outcomes, after) ∧
          Runs registry chain ds read outcomes after) ∨
        ∃ front d back outcomes between failure after, ds = front ++ d :: back ∧
          Runs registry chain front read outcomes between ∧
          d.run registry chain between = (.error failure, after) ∧
          runText registry stripTabs chain text e = (.error failure, after) := by
  refine ⟨fun hpure text text' e e' as bs has hbs a ha b hb hcommand hparameter => ?_, fun text e => ?_⟩
  · have htwins := twins_of_parse hpure has hbs ha hb hcommand hparameter
    exact ⟨congrArg Option.isSome htwins.binding, fun e e' =>
      ⟨htwins.run_eq hpure chain e e', fun depth => htwins.chainWith_eq hpure depth none {} e e'⟩⟩
  · have hrun : runText registry stripTabs chain text e =
        match parse registry stripTabs text e with
        | (.error error, e) => (.error (.grammar error), e)
        | (.ok ds, e) => runAll registry chain ds e := by
      rw [runText, Act.bind_apply]
      obtain ⟨outcome, e⟩ := parse registry stripTabs text e
      cases outcome <;> rfl
    rw [hrun]
    obtain ⟨outcome, e⟩ := parse registry stripTabs text e
    cases outcome with
    | error error => rfl
    | ok ds => exact runAll_cases registry chain ds e

/-- A line directive and a block behind other text, both of `upper` on the same parameter. -/
theorem runText_independent_upper : ∃ a b : Directive Unit,
    (parse Builtin.registry true "@upper:: ab;".toList ⟨(), []⟩).1 = .ok [a] ∧
    (parse Builtin.registry true "c @upper: ab @end-upper".toList ⟨(), []⟩).1 = .ok [b] ∧
    a.token.form ≠ b.token.form ∧ a.isResolved = b.isResolved ∧
    ∀ e e', (a.run Builtin.registry true e).1 = (b.run Builtin.registry true e').1 := by
  have hline : Token.ofText true "@upper:: ab;".toList = .ok
      [⟨"@upper:: ab;".toList, "upper".toList, "ab".toList, .line, ⟨0, 12⟩, ⟨9, 11⟩⟩] := by
    decide +kernel
  have hblock : Token.ofText true "c @upper: ab @end-upper".toList = .ok
      [⟨"@upper: ab @end-upper".toList, "upper".toList, "ab".toList, .block, ⟨2, 23⟩, ⟨10, 12⟩⟩] := by
    decide +kernel
  have hparse : ∀ {text tokens}, Token.ofText true text = .ok tokens →
      (parse Builtin.registry true text (⟨(), []⟩ : Effects Unit)).1 =
        .ok (tokens.map (bound Builtin.registry true text)) :=
    fun htokens => parse_eq_ok_iff.mpr ⟨_, htokens, rfl⟩
  obtain ⟨hindependent, -⟩ := runText_independent (Builtin.registry : Registry Unit) true true
  -- both directives have these two; left to themselves they are compared with all around them
  have hcommand : camelCase "upper".toList = camelCase "upper".toList := rfl
  have hparameter : Parameter.decode "ab".toList = Parameter.decode "ab".toList := rfl
  obtain ⟨hresolved, hrun⟩ := hindependent Builtin.registry_pure _ _ _ _ _ _ (hparse hline)
    (hparse hblock) _ (List.mem_singleton_self _) _ (List.mem_singleton_self _) hcommand hparameter
  exact ⟨_, _, hparse hline, hparse hblock, by decide, hresolved, fun e e' => (hrun e e').1⟩

end Directive
end Directives
