import Directives.Chain
import Directives.Proofs.Parameter
import Directives.Proofs.Parsing
import Mathlib.Data.Finset.Card

/-! Chains come to an end.

Going down through parameters ends because a parameter is shorter than the text
its directive stands in (`descend_of_le`). Nothing gets shorter where a command
answers a directive of its own: what a chain loses there is a command that has not
started one. Each chain inside another tracks a further command, and a tracked
command starts no chain, so that with finitely many commands in reach the chains
inside one another are bounded (`chainWith_settles`), whatever the commands do to
the world meanwhile. -/
namespace Directives

theorem nestedText?_eq_some_iff {v : Value} {t : Text} :
    nestedText? v = some t ↔ v = .text t ∧ isDirective t = true := by
  unfold nestedText?
  rw [Option.filter_eq_some_iff]
  refine and_congr_left fun _ => ?_
  cases v with
  | text s => simp [Value.text?]
  | _ => simp [Value.text?]

namespace Directive

variable {σ : Type} {registry : Registry σ} {stripTabs : Bool}

/-! ### Down through parameters -/

/-- A text is longer than the text that is a parameter of its directives. -/
theorem shorter_parameter {text inner : Text} {e : Effects σ} {ds : List (Directive σ)} {d : Directive σ}
    (h : (parse registry stripTabs text e).1 = .ok ds) (hmem : d ∈ ds) (hinner : d.parameter = .text inner) :
    Text.Shorter inner text := by
  obtain ⟨tokens, htokens, rfl⟩ := parse_eq_ok_iff.mp h
  obtain ⟨token, htoken, rfl⟩ := List.mem_map.mp hmem
  exact Parameter.shorter_of_decode hinner (Token.shorter_content htokens htoken)

theorem length_nestedText?_lt {text inner : Text} {e : Effects σ} {ds : List (Directive σ)}
    {d : Directive σ} (h : (parse registry stripTabs text e).1 = .ok ds) (hmem : d ∈ ds)
    (hinner : nestedText? d.parameter = some inner) : inner.length < text.length :=
  (shorter_parameter h hmem (nestedText?_eq_some_iff.mp hinner).1).length

theorem descend_succ (levels : Nat) (text : Text) (e : Effects σ) :
    descend registry stripTabs (levels + 1) text e =
      match parse registry stripTabs text e with
      | (.error error, e) => (.error error, e)
      | (.ok [], e) => (.ok [], e)
      | (.ok (d :: _), e) =>
        match nestedText? d.parameter with
        | none => (.ok [d], e)
        | some inner =>
          ((descend registry stripTabs levels inner e).1.map (d :: ·),
            (descend registry stripTabs levels inner e).2) := by
  rw [descend, Act.bind_apply]
  obtain ⟨outcome, e⟩ := parse registry stripTabs text e
  cases outcome with
  | error error => rfl
  | ok ds =>
    cases ds with
    | nil => rfl
    | cons d ds =>
      simp only
      cases nestedText? d.parameter <;> rfl

theorem descend_nil (levels : Nat) (e : Effects σ) :
    descend registry stripTabs levels [] e = (.ok [], e) := by
  cases levels with
  | zero => rfl
  | succ levels =>
    have hparse : parse registry stripTabs [] e = (.ok [], e) := by
      have hscan : ∀ at?, Scan.ofText at? [] = ⟨[], []⟩ := fun at? => by rw [Scan.ofText]
      have htokens : Token.ofText stripTabs [] = .ok [] := by
        rw [Token.ofText, Scan.blocks, Scan.lines, hscan, hscan]
        rfl
      rw [parse, htokens]
      rfl
    rw [descend_succ, hparse]

/-- As many levels as the text has characters are enough: more make no difference. -/
theorem descend_of_le {text : Text} {levels : Nat} (h : text.length ≤ levels) :
    descend registry stripTabs levels text = descend registry stripTabs text.length text := by
  suffices hboth : ∀ n m (text : Text) (e : Effects σ), text.length ≤ n → text.length ≤ m →
      descend registry stripTabs n text e = descend registry stripTabs m text e from
    funext fun e => hboth levels text.length text e h le_rfl
  intro n
  induction n with
  | zero =>
    intro m text e hn _
    obtain rfl := List.eq_nil_of_length_eq_zero (Nat.le_zero.mp hn)
    rw [descend_nil, descend_nil]
  | succ n ih =>
    intro m text e hn hm
    cases m with
    | zero =>
      obtain rfl := List.eq_nil_of_length_eq_zero (Nat.le_zero.mp hm)
      rw [descend_nil, descend_nil]
    | succ m =>
      rw [descend_succ, descend_succ]
      cases hparse : parse registry stripTabs text e with
      | mk outcome after =>
        cases outcome with
        | error error => rfl
        | ok ds =>
          cases ds with
          | nil => rfl
          | cons d ds =>
            simp only
            cases hinner : nestedText? d.parameter with
            | none => rfl
            | some inner =>
              have hshort : inner.length < text.length :=
                length_nestedText?_lt (e := e) (by rw [hparse]) (List.mem_cons_self ..) hinner
              simp only [ih m inner after (by omega) (by omega)]

/-! ### Commands and texts in reach -/

/-- A value that, if it is text, is one of `texts`. -/
def Within (texts : Set Text) (v : Value) : Prop :=
  ∀ t, v = .text t → t ∈ texts

/-- From `texts` nothing else is reached: a command answers no other text, and a directive in
one of them calls one of `commands` with a parameter that is no other text. -/
structure Closed (registry : Registry σ) (stripTabs : Bool) (commands : Finset Text)
    (texts : Set Text) : Prop where
  answers : ∀ c ∈ registry.commands, ∀ v e, Within texts (c.call v e).1
  parsed : ∀ t ∈ texts, ∀ e ds, (parse registry stripTabs t e).1 = .ok ds →
    ∀ d ∈ ds, d.command ∈ commands ∧ Within texts d.parameter

/-- From a directive nothing but `texts` is reached, neither as its parameter nor as an
answer of the command it was bound to. -/
structure Reaches (texts : Set Text) (d : Directive σ) : Prop where
  parameter : Within texts d.parameter
  answers : ∀ c, d.binding = some c → ∀ v e, Within texts (c.call v e).1

variable {commands : Finset Text} {texts : Set Text}

theorem Closed.resolve? (hclosed : Closed registry stripTabs commands texts) {name : Text}
    {c : Command σ} (h : registry.resolve? name = some c) (v : Value) (e : Effects σ) :
    Within texts (c.call v e).1 :=
  hclosed.answers c (List.mem_of_find?_eq_some h) v e

/-- An answer stays within the texts. -/
theorem Reaches.execute (hclosed : Closed registry stripTabs commands texts) {d : Directive σ}
    (hd : Reaches texts d) (override : Option Value) (e : Effects σ) :
    Within texts (d.execute registry override e).1 := by
  unfold Directive.execute
  cases hbinding : d.binding with
  | some c => exact hd.answers c hbinding _ e
  | none =>
    rw [Option.orElse_eq_orElse, Option.orElse_eq_or, Option.none_or]
    cases hresolve : registry.resolve? d.command with
    | some c => exact hclosed.resolve? hresolve _ e
    | none => exact hd.parameter

/-- A directive in reach: its command is one of `commands` and it reads blocks as the others. -/
structure InReach (stripTabs : Bool) (commands : Finset Text) (texts : Set Text) (d : Directive σ) :
    Prop extends Reaches texts d where
  command : d.command ∈ commands
  sameTabs : d.stripTabs = stripTabs

theorem Closed.inReach (hclosed : Closed registry stripTabs commands texts) {t : Text} (ht : t ∈ texts)
    {e : Effects σ} {ds : List (Directive σ)} (h : (parse registry stripTabs t e).1 = .ok ds)
    {d : Directive σ} (hmem : d ∈ ds) : InReach stripTabs commands texts d := by
  obtain ⟨hcommand, hparameter⟩ := hclosed.parsed t ht e ds h d hmem
  obtain ⟨tokens, -, rfl⟩ := parse_eq_ok_iff.mp h
  obtain ⟨token, -, rfl⟩ := List.mem_map.mp hmem
  exact ⟨⟨hparameter, fun c hc => hclosed.resolve? hc⟩, hcommand, rfl⟩

/-- What holds of the directives that are parsed holds of all on the way down. -/
theorem forall_of_descend {P : Directive σ → Prop}
    (hparsed : ∀ t ∈ texts, ∀ e ds, (parse registry stripTabs t e).1 = .ok ds →
      ∀ d ∈ ds, P d ∧ Within texts d.parameter)
    {levels : Nat} {t : Text} (ht : t ∈ texts) {e : Effects σ} {below : List (Directive σ)}
    (h : (descend registry stripTabs levels t e).1 = .ok below) : ∀ d ∈ below, P d := by
  induction levels generalizing t e below with
  | zero =>
    cases h
    exact fun d hd => nomatch hd
  | succ levels ih =>
    rw [descend_succ] at h
    cases hparse : parse registry stripTabs t e with
    | mk outcome after =>
      rw [hparse] at h
      cases outcome with
      | error error => cases h
      | ok ds =>
        cases ds with
        | nil =>
          cases h
          exact fun d hd => nomatch hd
        | cons first ds =>
          obtain ⟨hfirst, hparameter⟩ :=
            hparsed t ht e _ (congrArg Prod.fst hparse) first (List.mem_cons_self ..)
          simp only at h
          cases hinner : nestedText? first.parameter with
          | none =>
            rw [hinner] at h
            cases h
            exact fun d hd => by rwa [List.mem_singleton.mp hd]
          | some inner =>
            rw [hinner] at h
            have hwithin : inner ∈ texts := hparameter inner (nestedText?_eq_some_iff.mp hinner).1
            simp only at h
            cases hbelow : (Directive.descend registry stripTabs levels inner after).1 with
            | error error =>
              rw [hbelow] at h
              cases h
            | ok inside =>
              rw [hbelow] at h
              cases h
              intro d hd
              rcases List.mem_cons.mp hd with rfl | hd
              · exact hfirst
              · exact ih hwithin hbelow d hd

/-- All directives on the way down are in reach. -/
theorem Closed.descend (hclosed : Closed registry stripTabs commands texts) {levels : Nat} {t : Text}
    (ht : t ∈ texts) {e : Effects σ} {below : List (Directive σ)}
    (h : (descend registry stripTabs levels t e).1 = .ok below) :
    ∀ d ∈ below, InReach stripTabs commands texts d := by
  refine forall_of_descend (fun t ht e ds hds d hd => ?_) ht h
  have hreach := hclosed.inReach ht hds hd
  exact ⟨hreach, hreach.parameter⟩

/-! ### Chains inside chains -/

/-- The commands that have not started a chain. -/
def untracked (commands : Finset Text) (state : ChainState) : Finset Text :=
  commands.filter fun c => state.isTracked c = false

theorem isTracked_mono {state after : ChainState} (h : state.tracked ⊆ after.tracked) {c : Text}
    (hc : state.isTracked c = true) : after.isTracked c = true :=
  List.contains_iff_mem.mpr (h (List.contains_iff_mem.mp hc))

theorem isTracked_track (state : ChainState) (c : Text) : (state.track c).isTracked c = true :=
  List.contains_iff_mem.mpr (List.mem_append_right _ (List.mem_singleton_self c))

theorem untracked_mono {state after : ChainState} (h : state.tracked ⊆ after.tracked) :
    untracked commands after ⊆ untracked commands state := by
  intro c hc
  obtain ⟨hmem, hnot⟩ := Finset.mem_filter.mp hc
  refine Finset.mem_filter.mpr ⟨hmem, ?_⟩
  by_contra htracked
  rw [isTracked_mono h (eq_true_of_ne_false htracked)] at hnot
  cases hnot

/-- A command that starts a chain is one less that has not. -/
theorem card_untracked_lt {state after : ChainState} {c : Text} (hc : c ∈ commands)
    (hnot : state.isTracked c = false) (h : (state.track c).tracked ⊆ after.tracked) :
    (untracked commands after).card < (untracked commands state).card := by
  refine Finset.card_lt_card ⟨untracked_mono fun x hx => h (List.mem_append_left _ hx), fun hsub => ?_⟩
  have hc : c ∈ untracked commands after := hsub (Finset.mem_filter.mpr ⟨hc, hnot⟩)
  have hafter := (Finset.mem_filter.mp hc).2
  rw [isTracked_mono h (isTracked_track state c)] at hafter
  cases hafter

/-- From depth `least` on the run comes to the same end, an answer within the texts, and
forgets no tracked command. -/
structure Settled (texts : Set Text) (state : ChainState) (least : Nat) (run : Nat → Chained × Effects σ)
    (answer : Except GrammarError Value) (after : ChainState) (e : Effects σ) : Prop where
  run_eq : ∀ depth, least ≤ depth → run depth = ((answer.mapError .grammar, after), e)
  tracked : state.tracked ⊆ after.tracked
  within : ∀ v, answer = .ok v → Within texts v

/-- Settled, with whatever answer. -/
def Settles (texts : Set Text) (state : ChainState) (least : Nat) (run : Nat → Chained × Effects σ) : Prop :=
  ∃ answer after e, Settled texts state least run answer after e

theorem Settles.succ {state : ChainState} {least : Nat} {run : Nat → Chained × Effects σ}
    (h : Settles texts state least fun depth => run (depth + 1)) : Settles texts state (least + 1) run := by
  obtain ⟨answer, after, e, hrun, htracked, hwithin⟩ := h
  refine ⟨answer, after, e, fun depth hdepth => ?_, htracked, hwithin⟩
  obtain ⟨k, rfl⟩ := Nat.exists_eq_add_of_le hdepth
  rw [Nat.add_right_comm]
  exact hrun (least + k) (Nat.le_add_right ..)

theorem feed_cons (call : Directive σ → Value → ChainState → Act σ Chained) (d : Directive σ)
    (ds : List (Directive σ)) (v : Value) (state : ChainState) (e : Effects σ) :
    feed call (d :: ds) v state e =
      match call d v state e with
      | ((.ok w, state), e) => feed call ds w state e
      | ((.error error, state), e) => ((.error error, state), e) := by
  rw [feed, Act.bind_apply]
  obtain ⟨⟨outcome, state⟩, e⟩ := call d v state e
  cases outcome <;> rfl

/-- One more call behind the others is on what they come to. -/
theorem feed_concat (call : Directive σ → Value → ChainState → Act σ Chained) (ds : List (Directive σ))
    (d : Directive σ) (v : Value) (state : ChainState) (e : Effects σ) :
    feed call (ds ++ [d]) v state e =
      match feed call ds v state e with
      | ((.ok w, state), e) => call d w state e
      | ((.error error, state), e) => ((.error error, state), e) := by
  induction ds generalizing v state e with
  | nil =>
    rw [List.nil_append, feed_cons]
    show _ = call d v state e
    obtain ⟨⟨outcome, state⟩, e⟩ := call d v state e
    cases outcome <;> rfl
  | cons first ds ih =>
    rw [List.cons_append, feed_cons, feed_cons]
    obtain ⟨⟨outcome, state⟩, e⟩ := call first v state e
    cases outcome with
    | error error => rfl
    | ok w => exact ih w state e

/-- Where each call settles, calls one after the other do. -/
theorem feed_settles {call : Nat → Directive σ → Value → ChainState → Act σ Chained} {start : ChainState}
    {least : Nat} {ds : List (Directive σ)}
    (hcall : ∀ d ∈ ds, ∀ v state e, Within texts v → start.tracked ⊆ state.tracked →
      Settles texts state least fun depth => call depth d v state e) :
    ∀ v state e, Within texts v → start.tracked ⊆ state.tracked →
      Settles texts state least fun depth => feed (call depth) ds v state e := by
  induction ds with
  | nil =>
    intro v state e hv _
    refine ⟨.ok v, state, e, fun _ _ => rfl, List.Subset.refl _, fun w hw => ?_⟩
    cases hw
    exact hv
  | cons d ds ih =>
    intro v state e hv hstart
    obtain ⟨answer, middle, e', hone⟩ := hcall d (List.mem_cons_self ..) v state e hv hstart
    cases answer with
    | error error =>
      refine ⟨.error error, middle, e', fun depth hdepth => ?_, hone.tracked, nofun⟩
      rw [feed_cons, hone.run_eq depth hdepth]
      rfl
    | ok w =>
      obtain ⟨answer, after, e'', hrest⟩ := ih (fun x hx => hcall x (List.mem_cons_of_mem d hx)) w middle e'
        (hone.within w rfl) (List.Subset.trans hstart hone.tracked)
      refine ⟨answer, after, e'', fun depth hdepth => ?_, List.Subset.trans hone.tracked hrest.tracked,
        hrest.within⟩
      rw [feed_cons, hone.run_eq depth hdepth]
      exact hrest.run_eq depth hdepth

/-- A directive whose parameter is no directive is executed once, and no command is tracked. -/
theorem chainWith_of_plain (registry : Registry σ) {d : Directive σ} {override : Option Value}
    (h : nestedText? (override.getD d.parameter) = none) (depth : Nat) (state : ChainState) (e : Effects σ) :
    chainWith registry (depth + 1) d override state e =
      ((.ok (d.execute registry override e).1, state), (d.execute registry override e).2) := by
  rw [chainWith, h]
  rfl

/-- A tracked directive is executed once, which is reported if its parameter is a directive. -/
theorem chainWith_of_tracked (registry : Registry σ) {d : Directive σ} {override : Option Value} {t : Text}
    (h : nestedText? (override.getD d.parameter) = some t) {state : ChainState}
    (htracked : state.isTracked d.command = true) (depth : Nat) (e : Effects σ) :
    chainWith registry (depth + 1) d override state e =
      ((.ok (d.execute registry override (report (.alreadyChaining d.command) e).2).1, state),
        (d.execute registry override (report (.alreadyChaining d.command) e).2).2) := by
  rw [chainWith, h]
  simp only [htracked, if_true]
  rfl

/-- A directive that starts no chain is executed once. -/
theorem chainWith_of_not_starting (registry : Registry σ) {d : Directive σ} {override : Option Value}
    {state : ChainState} (h : ∀ t, nestedText? (override.getD d.parameter) = some t →
      state.isTracked d.command = true) (e : Effects σ) : ∃ e', ∀ depth, chainWith registry (depth + 1) d override state e =
      ((.ok (d.execute registry override e').1, state), (d.execute registry override e').2) := by
  cases htext : nestedText? (override.getD d.parameter) with
  | none => exact ⟨e, fun depth => chainWith_of_plain registry htext depth state e⟩
  | some t => exact ⟨_, fun depth => chainWith_of_tracked registry htext (h t htext) depth e⟩

/-- A directive that starts a chain is tracked, and then calls go from the innermost directive
outwards, itself the last. -/
theorem chainWith_of_starting {d : Directive σ} {override : Option Value} {state : ChainState} {t : Text}
    (h : nestedText? (override.getD d.parameter) = some t) (hnot : state.isTracked d.command = false)
    (depth : Nat) (e : Effects σ) : chainWith registry (depth + 1) d override state e =
      match descend registry d.stripTabs t.length t e with
      | (.error error, e) => ((.error (.grammar error), state.track d.command), e)
      | (.ok below, e) =>
        feed (fun x v => chainWith registry depth x (some v)) (d :: below).reverse
          (below.getLast?.getD d).parameter (state.track d.command)
          (report (.chainResolved d.command (below.length + 1)) e).2 := by
  rw [chainWith, h]
  simp only [hnot, Bool.false_eq_true, if_false]
  rw [Act.bind_apply]
  obtain ⟨outcome, e⟩ := descend registry d.stripTabs t.length t e
  cases outcome <;> rfl

/-- A chain settles one level up from the calls it makes. -/
theorem start_settles (hclosed : Closed registry stripTabs commands texts) {d : Directive σ}
    (hd : Reaches texts d) (htabs : d.stripTabs = stripTabs) {override : Option Value}
    (hoverride : Within texts (override.getD d.parameter)) {state : ChainState} {least : Nat}
    (hcall : state.isTracked d.command = false → ∀ x, Reaches texts x → x.stripTabs = stripTabs →
      ∀ v after e, Within texts v → (state.track d.command).tracked ⊆ after.tracked →
      (x.command ∈ commands ∨ after.isTracked x.command = true) →
      Settles texts after least fun depth => chainWith registry depth x (some v) after e)
    (e : Effects σ) :
    Settles texts state (least + 1) fun depth => chainWith registry depth d override state e := by
  refine Settles.succ ?_
  by_cases hstarts : ∃ t, nestedText? (override.getD d.parameter) = some t ∧ state.isTracked d.command = false
  · obtain ⟨t, htext, hnot⟩ := hstarts
    have htrack : state.tracked ⊆ (state.track d.command).tracked := List.subset_append_left ..
    have hin : t ∈ texts := hoverride t (nestedText?_eq_some_iff.mp htext).1
    simp only [chainWith_of_starting htext hnot, htabs]
    cases hdescend : descend registry stripTabs t.length t e with
    | mk outcome e' =>
      cases outcome with
      | error error => exact ⟨.error error, _, e', fun _ _ => rfl, htrack, nofun⟩
      | ok below =>
        have hbelow : ∀ x ∈ below, InReach stripTabs commands texts x :=
          hclosed.descend hin (congrArg Prod.fst hdescend)
        have hinnermost : Within texts (below.getLast?.getD d).parameter := by
          cases hlast : below.getLast? with
          | none => exact hd.parameter
          | some x => exact (hbelow x (List.mem_of_getLast? hlast)).parameter
        have hone : ∀ x ∈ (d :: below).reverse, ∀ v after e, Within texts v →
            (state.track d.command).tracked ⊆ after.tracked →
            Settles texts after least fun depth => chainWith registry depth x (some v) after e := by
          intro x hx v after e hv hafter
          rcases List.mem_cons.mp (List.mem_reverse.mp hx) with rfl | hx
          · have htracked := isTracked_mono hafter (isTracked_track state x.command)
            exact hcall hnot x hd htabs v after e hv hafter (.inr htracked)
          · have hx := hbelow x hx
            exact hcall hnot x hx.toReaches hx.sameTabs v after e hv hafter (.inl hx.command)
        -- the directive itself is called last, tracked by now, so that it starts no chain again
        obtain ⟨answer, after, e'', hrun, hafter, hwithin⟩ := feed_settles hone _ (state.track d.command)
          (report (.chainResolved d.command (below.length + 1)) e').2 hinnermost (List.Subset.refl _)
        exact ⟨answer, after, e'', hrun, List.Subset.trans htrack hafter, hwithin⟩
  · have hnot : ∀ t, nestedText? (override.getD d.parameter) = some t → state.isTracked d.command = true :=
      fun t ht => eq_true_of_ne_false fun hf => hstarts ⟨t, ht, hf⟩
    obtain ⟨e', hrun⟩ := chainWith_of_not_starting registry hnot e
    refine ⟨.ok (d.execute registry override e').1, state, (d.execute registry override e').2,
      fun depth _ => hrun depth, List.Subset.refl _, fun v hv => ?_⟩
    cases hv
    exact hd.execute hclosed override e'

/-- A command in reach settles as deep as there are commands that have not started a chain. -/
theorem chainWith_settles (hclosed : Closed registry stripTabs commands texts) {d : Directive σ}
    (hd : Reaches texts d) (htabs : d.stripTabs = stripTabs) {override : Option Value}
    (hoverride : Within texts (override.getD d.parameter)) {state : ChainState}
    (hcommand : d.command ∈ commands ∨ state.isTracked d.command = true) (e : Effects σ) {least : Nat}
    (h : (untracked commands state).card < least) :
    Settles texts state least fun depth => chainWith registry depth d override state e := by
  induction least generalizing d override state e with
  | zero => omega
  | succ least ih =>
    refine start_settles hclosed hd htabs hoverride (fun hnot x hx hsame v after e hv hafter hcalled => ?_) e
    have hmem : d.command ∈ commands := hcommand.resolve_right (by rw [hnot]; exact Bool.false_ne_true)
    have hless := card_untracked_lt hmem hnot hafter
    have hv : Within texts ((some v).getD x.parameter) := hv
    exact ih hx hsame hv hcalled e (by omega)

/-- **Chains come to an end.** Where only the commands `commands` can be met from the texts
that can be reached, a chain has an answer, and allowing for more chains inside one
another than there are commands and two changes nothing; nor does going further down
through parameters than a text has characters. -/
theorem chainWith_terminates {d : Directive σ} (hclosed : Closed registry d.stripTabs commands texts)
    (hd : Reaches texts d) {override : Option Value} (hoverride : ∀ v, override = some v → Within texts v)
    (state : ChainState) (e : Effects σ) :
    (∃ (answer : Except GrammarError Value) (after : ChainState) (e' : Effects σ),
      ∀ depth, commands.card + 2 ≤ depth →
        chainWith registry depth d override state e = ((answer.mapError .grammar, after), e')) ∧
    ∀ levels text, text.length ≤ levels →
      descend registry d.stripTabs levels text = descend registry d.stripTabs text.length text := by
  refine ⟨?_, fun levels text h => descend_of_le h⟩
  have hparameter : Within texts (override.getD d.parameter) := by
    cases override with
    | none => exact hd.parameter
    | some v => exact hoverride v rfl
  have hsettles : Settles texts state (commands.card + 1 + 1) fun depth =>
      chainWith registry depth d override state e := by
    refine start_settles hclosed hd rfl hparameter (fun _ x hx hsame v after e hv _ hcalled => ?_) e
    have hcard : (untracked commands after).card ≤ commands.card := Finset.card_filter_le ..
    have hv : Within texts ((some v).getD x.parameter) := hv
    exact chainWith_settles hclosed hx hsame hv hcalled e (by omega)
  obtain ⟨answer, after, e', hrun, -, -⟩ := hsettles
  exact ⟨answer, after, e', hrun⟩

/-- The line directive of a command on `x`. -/
def lineOf (command : Text) : Text :=
  '@' :: (command ++ [':', ':', ' ', 'x', ';'])

/-- Two commands that answer directives of each other. -/
def echoing : Registry Unit :=
  (Registry.mk [⟨['t', 'o'], fun _ => pure (.text (lineOf ['f', 'r', 'o']))⟩] (by decide)).register
    ⟨['f', 'r', 'o'], fun _ => pure (.text (lineOf ['t', 'o']))⟩

theorem closed_echoing : Closed echoing true {['t', 'o'], ['f', 'r', 'o']}
    {lineOf ['t', 'o'], lineOf ['f', 'r', 'o'], ['x']} where
  answers c hc v e t ht := by
    have hcommands : echoing.commands = [⟨['f', 'r', 'o'], fun _ => pure (.text (lineOf ['t', 'o']))⟩,
        ⟨['t', 'o'], fun _ => pure (.text (lineOf ['f', 'r', 'o']))⟩] := rfl
    rw [hcommands] at hc
    rcases List.mem_cons.mp hc with rfl | hc
    · cases ht
      simp
    · obtain rfl := List.mem_singleton.mp hc
      cases ht
      simp
  parsed t ht e ds hds d hd := by
    obtain ⟨tokens, htokens, rfl⟩ := parse_eq_ok_iff.mp hds
    obtain ⟨token, htoken, rfl⟩ := List.mem_map.mp hd
    have hx : Within {lineOf ['t', 'o'], lineOf ['f', 'r', 'o'], ['x']} (Parameter.decode ['x']) := by
      intro t ht
      rw [show Parameter.decode ['x'] = .text ['x'] by decide] at ht
      cases ht
      simp
    rcases ht with rfl | rfl | rfl
    · have hto : Token.ofText true (lineOf ['t', 'o']) =
          .ok [⟨lineOf ['t', 'o'], ['t', 'o'], ['x'], .line, ⟨0, 8⟩, ⟨6, 7⟩⟩] := by decide +kernel
      cases htokens.symm.trans hto
      obtain rfl := List.mem_singleton.mp htoken
      exact ⟨by decide, hx⟩
    · have hfro : Token.ofText true (lineOf ['f', 'r', 'o']) =
          .ok [⟨lineOf ['f', 'r', 'o'], ['f', 'r', 'o'], ['x'], .line, ⟨0, 9⟩, ⟨7, 8⟩⟩] := by
        decide +kernel
      cases htokens.symm.trans hfro
      obtain rfl := List.mem_singleton.mp htoken
      exact ⟨by decide, hx⟩
    · have hnone : Token.ofText true ['x'] = .ok [] := by decide +kernel
      cases htokens.symm.trans hnone
      cases htoken

/-- A block of one of them with a directive of the other inside. -/
def echoed : Directive Unit :=
  let raw := ['@', 't', 'o', ':', ' '] ++ lineOf ['f', 'r', 'o'] ++ [' ', '@', 'e', 'n', 'd', '-', 't', 'o']
  bound echoing true raw ⟨raw, ['t', 'o'], lineOf ['f', 'r', 'o'], .block, ⟨0, 22⟩, ⟨5, 14⟩⟩

/-- The two commands' chains end four deep. -/
theorem chainWith_echoing : ∃ (answer : Except GrammarError Value) (after : ChainState) (e' : Effects Unit),
    ∀ depth, 4 ≤ depth →
      chainWith echoing depth echoed none {} ⟨(), []⟩ = ((answer.mapError .grammar, after), e') := by
  have hparameter : echoed.parameter = .text (lineOf ['f', 'r', 'o']) := by decide
  have hbinding : echoed.binding = echoing.resolve? ['t', 'o'] := rfl
  have hreaches : Reaches {lineOf ['t', 'o'], lineOf ['f', 'r', 'o'], ['x']} echoed := by
    refine ⟨fun t ht => ?_, fun c hc => closed_echoing.resolve? (hbinding ▸ hc)⟩
    rw [hparameter] at ht
    cases ht
    simp
  have hoverride : ∀ v, (none : Option Value) = some v →
      Within {lineOf ['t', 'o'], lineOf ['f', 'r', 'o'], ['x']} v := nofun
  obtain ⟨⟨answer, after, e', hrun⟩, -⟩ :=
    chainWith_terminates closed_echoing hreaches hoverride {} ⟨(), []⟩
  exact ⟨answer, after, e', fun depth h => hrun depth h⟩

end Directive
end Directives
