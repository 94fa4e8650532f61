import Directives.Proofs.Tracking
import Mathlib.Tactic.TFAE

/-! What an override is for.

A chain is started with a value in place of the directive's own parameter. Where
this is text that is one directive, the directives inside are read from the text
once more, and the innermost one's parameter is what the calls begin with. If
nothing is read there, the innermost directive is the one that the chain started
with, and the calls begin with its own parameter instead of the override
(`chainWith_of_nothing_read`). This is the only way for the own parameter of a
directive with a command to matter (`override_decides_tfae`). -/
namespace Directives

/-- The command's answer is a function of its parameter, and it does nothing else. -/
def Command.Pure {σ : Type} (c : Command σ) : Prop :=
  ∃ f : Value → Value, ∀ v e, c.call v e = (f v, e)

namespace Directive

variable {σ : Type} {registry : Registry σ} {stripTabs : Bool}

/-! ### Where nothing is read -/

/-- The way inwards is empty only where the text has no directives. -/
theorem ofText_of_descend_nil {text : Text} {e : Effects σ}
    (h : (descend registry stripTabs text.length text e).1 = .ok []) :
    Token.ofText stripTabs text = .ok [] := by
  rw [← descend_of_le (Nat.le_succ text.length), descend_succ] at h
  cases hparse : parse registry stripTabs text e with
  | mk outcome after =>
    rw [hparse] at h
    cases outcome with
    | error error => cases h
    | ok ds =>
      cases ds with
      | nil =>
        obtain ⟨tokens, htokens, hnil⟩ := parse_eq_ok_iff.mp (congrArg Prod.fst hparse)
        rw [htokens, List.map_eq_nil_iff.mp hnil.symm]
      | cons d ds =>
        -- a directive that is read stands at the head of the way
        simp only at h
        split at h
        · cases h
        · cases hbelow : (descend registry stripTabs text.length _ after).1 <;> rw [hbelow] at h <;> cases h

theorem descend_of_ofText_nil {text : Text} (h : Token.ofText stripTabs text = .ok []) (e : Effects σ) :
    descend registry stripTabs text.length text e = (.ok [], e) := by
  have hparse : parse registry stripTabs text e = (.ok [], e) := by
    rw [parse, h]
    rfl
  rw [← descend_of_le (Nat.le_succ text.length), descend_succ, hparse]

/-- Where nothing is read in the override, the directive is executed on its own parameter. -/
theorem chainWith_of_nothing_read {d : Directive σ} {p : Value} {t : Text} {state : ChainState}
    (htext : nestedText? p = some t) (hnot : state.isTracked d.command = false)
    (hnothing : Token.ofText d.stripTabs t = .ok []) (depth : Nat) (e : Effects σ) :
    ∃ before, chainWith registry (depth + 2) d (some p) state e =
      ((.ok (d.execute registry none before).1, state.track d.command),
        (d.execute registry none before).2) := by
  have htext : nestedText? ((some p).getD d.parameter) = some t := htext
  have htracked : ∀ s, nestedText? ((some d.parameter).getD d.parameter) = some s →
      (state.track d.command).isTracked d.command = true := fun _ _ => isTracked_track state d.command
  obtain ⟨before, hown⟩ := chainWith_of_not_starting registry htracked
    (report (.chainResolved d.command 1) e).2
  refine ⟨before, ?_⟩
  rw [chainWith_of_starting htext hnot, descend_of_ofText_nil hnothing]
  simp only [List.reverse_singleton, feed_cons, List.getLast?_nil, Option.getD_none, List.length_nil,
    Nat.zero_add, hown]
  rfl

/-! ### Where something is read -/

/-- Two directives that are bound to the same command, under the same name, and read blocks alike. -/
structure Alike (d d' : Directive σ) : Prop where
  binding : ∃ c, d.binding = some c ∧ d'.binding = some c
  command : d'.command = d.command
  stripTabs : d'.stripTabs = d.stripTabs

theorem Alike.execute_eq {d d' : Directive σ} (h : Alike d d') (v : Value) :
    d'.execute registry (some v) = d.execute registry (some v) := by
  obtain ⟨c, hd, hd'⟩ := h.binding
  rw [execute, execute, hd, hd']
  rfl

/-- The chain of the directive from `p` has no need of its own parameter: the directive is tracked,
or something is read in `p`, should `p` be a directive. -/
def Decides (d : Directive σ) (p : Value) (state : ChainState) : Prop :=
  state.isTracked d.command = true ∨ ∀ t, nestedText? p = some t → Token.ofText d.stripTabs t ≠ .ok []

/-- Calls one after the other come to the same if the last ones do, from all states that keep what
the others keep. -/
theorem feed_concat_congr {call : Directive σ → Value → ChainState → Act σ Chained}
    {ds : List (Directive σ)} {d d' : Directive σ} {v : Value} {state : ChainState} {e : Effects σ}
    (hkept : state.tracked <+: (feed call ds v state e).1.2.tracked)
    (hlast : ∀ v after e, state.tracked <+: after.tracked → call d' v after e = call d v after e) :
    feed call (ds ++ [d']) v state e = feed call (ds ++ [d]) v state e := by
  rw [feed_concat, feed_concat]
  generalize feed call ds v state e = run at hkept ⊢
  obtain ⟨⟨outcome, after⟩, e'⟩ := run
  cases outcome with
  | error error => rfl
  | ok w => exact hlast w after e' hkept

/-- Directives that differ in their own parameters at most come to the same. -/
theorem Alike.chainWith_eq {d d' : Directive σ} (h : Alike d d') {p : Value} {state : ChainState}
    (hp : Decides d p state) (depth : Nat) (e : Effects σ) :
    chainWith registry depth d' (some p) state e = chainWith registry depth d (some p) state e := by
  induction depth generalizing p state e with
  | zero => rfl
  | succ depth ih =>
    cases htext : nestedText? p with
    | none =>
      have hplain : ∀ x : Directive σ, nestedText? ((some p).getD x.parameter) = none := fun _ => htext
      rw [chainWith_of_plain registry (hplain d'), chainWith_of_plain registry (hplain d), h.execute_eq]
    | some t =>
      have hstarts : ∀ x : Directive σ, nestedText? ((some p).getD x.parameter) = some t := fun _ => htext
      cases htracked : state.isTracked d.command with
      | true =>
        rw [chainWith_of_tracked registry (hstarts d') (by rw [h.command, htracked]),
          chainWith_of_tracked registry (hstarts d) htracked, h.execute_eq, h.command]
      | false =>
        have hread : Token.ofText d.stripTabs t ≠ .ok [] :=
          hp.resolve_left (by rw [htracked]; exact Bool.false_ne_true) t htext
        rw [chainWith_of_starting (hstarts d') (by rw [h.command, htracked]),
          chainWith_of_starting (hstarts d) htracked, h.command, h.stripTabs]
        cases hdescend : descend registry d.stripTabs t.length t e with
        | mk outcome e' =>
          cases outcome with
          | error error => rfl
          | ok below =>
            cases below with
            | nil => exact absurd (ofText_of_descend_nil (congrArg Prod.fst hdescend)) hread
            | cons first below =>
              simp only [List.reverse_cons, List.getLast?_cons, Option.getD_some]
              refine feed_concat_congr (feed_tracked_kept registry depth ..)
                (fun v after e hkept => ih (.inl ?_) e)
              exact isTracked_mono hkept.subset (isTracked_track state d.command)

/-! ### Exactly when -/

/-- From the override `p`, directives that are `d` but for the parameter and a binding to `c` all
come to the same. -/
def Overrides (registry : Registry σ) (d : Directive σ) (p : Value) (state : ChainState) (e : Effects σ)
    (c : Command σ) : Prop :=
  ∀ v w depth, chainWith registry depth { d with binding := some c, parameter := v } (some p) state e =
    chainWith registry depth { d with binding := some c, parameter := w } (some p) state e

theorem overrides_of_decides {d : Directive σ} {p : Value} {state : ChainState} (h : Decides d p state)
    (e : Effects σ) (c : Command σ) : Overrides registry d p state e c := by
  intro v w depth
  have halike : Alike { d with binding := some c, parameter := w }
      { d with binding := some c, parameter := v } := ⟨⟨c, rfl, rfl⟩, rfl, rfl⟩
  exact halike.chainWith_eq h depth e

/-- The command that answers its parameter. -/
def echo (σ : Type) : Command σ :=
  ⟨[], pure⟩

theorem echo_pure : (echo σ).Pure :=
  ⟨id, fun _ _ => rfl⟩

/-- Where nothing is read in the override, the answer of `echo` is the directive's own parameter. -/
theorem not_overrides_echo {d : Directive σ} {p : Value} {t : Text} {state : ChainState}
    (htext : nestedText? p = some t) (hnot : state.isTracked d.command = false)
    (hnothing : Token.ofText d.stripTabs t = .ok []) (e : Effects σ) :
    ¬ Overrides registry d p state e (echo σ) := by
  intro hoverrides
  have hanswer : ∀ v, (chainWith registry 2 { d with binding := some (echo σ), parameter := v } (some p)
      state e).1.1 = .ok v := by
    intro v
    let x : Directive σ := { d with binding := some (echo σ), parameter := v }
    have hnotx : state.isTracked x.command = false := hnot
    have hnothingx : Token.ofText x.stripTabs t = .ok [] := hnothing
    obtain ⟨before, hrun⟩ := chainWith_of_nothing_read htext hnotx hnothingx 0 e
    rw [hrun]
    rfl
  have hsame := congrArg (·.1.1) (hoverrides .null (.bool true) 2)
  simp only [hanswer] at hsame
  cases hsame

/-- **When the override decides.** The own parameter of a directive with a command plays no part in
its chain from an override, whatever the command does, exactly when the directive is tracked or
something is read in the override, should that be a directive. With commands that do nothing
beside answering it is the same condition. -/
theorem override_decides_tfae (registry : Registry σ) (d : Directive σ) (p : Value)
    (state : ChainState) (e : Effects σ) :
    [∀ c, Overrides registry d p state e c, ∀ c, c.Pure → Overrides registry d p state e c,
      Decides d p state].TFAE := by
  tfae_have 1 → 2 := fun h c _ => h c
  tfae_have 2 → 3 := by
    intro h
    by_contra hnot
    obtain ⟨hnot, hread⟩ := not_or.mp hnot
    push Not at hread
    obtain ⟨t, htext, hnothing⟩ := hread
    exact not_overrides_echo htext (Bool.eq_false_of_not_eq_true hnot) hnothing e (h (echo σ) echo_pure)
  tfae_have 3 → 1 := fun h => overrides_of_decides h e
  tfae_finish

/-- A line directive to the strict grammar, and none to the scan: its only `;` is escaped. -/
def escapedLine : Text :=
  ['@', 'a', 'a', ':', ':', ' ', 'x', ' ', '\\', ';']

/-- From this override two directives with the same command come to different answers, also where
no other command is registered. -/
theorem escaped_override_ignored :
    ¬ ∀ (d : Directive Unit) (p : Value) (state : ChainState) (e : Effects Unit) (c : Command Unit),
      c.Pure → Overrides ∅ d p state e c := by
  intro h
  have htext : nestedText? (.text escapedLine) = some escapedLine := by decide
  have hnothing : Token.ofText true escapedLine = .ok [] := by decide +kernel
  have hnot : ({} : ChainState).isTracked echoed.command = false := rfl
  exact not_overrides_echo htext hnot hnothing ⟨(), []⟩ (h echoed _ {} _ (echo Unit) echo_pure)

end Directive
end Directives
