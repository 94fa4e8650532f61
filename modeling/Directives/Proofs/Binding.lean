import Directives.Proofs.Trail
import Directives.Proofs.Traverse

/-! Which command a directive calls, by the history of a registry.

Registering, parsing, executing and chaining take turns on one registry (`Session`),
and all that matters of the turns so far is which command was registered last under
each name (`latest?`): it is what the registry holds (`Session.resolve?_run`), and it
is what a directive keeps that is read next. So the command a directive calls depends
on two points of the history: when it was read, and, where there was no command of the
name then, the call itself (`Session.calls_by_history`). -/
namespace Directives

variable {σ : Type}

/-! ### Sessions -/

/-- One turn on a registry. -/
inductive Move (σ : Type) where
  | register (command : Command σ)
  | parse (stripTabs : Bool) (text : Text)
  /-- Execute the directive that was read as number `index`. -/
  | execute (index : Nat) (override : Option Value)
  /-- Execute the directive that was read as number `index` after those in its parameter. -/
  | chain (index : Nat) (override : Option Value) (state : ChainState)

/-- A registry, the directives read so far in the order in which they were read, the answers to
executions and chains, and the effects. Commands act on the effects only: the registry is fixed
during a move, and a command that is called cannot register another one. -/
structure Session (σ : Type) where
  registry : Registry σ := ∅
  pool : List (Directive σ) := []
  answers : List (Except ChainFailure Value) := []
  effects : Effects σ

namespace Session

open Directive

/-- One more answer, which leaves `effects` behind. -/
def answered (s : Session σ) (answer : Except ChainFailure Value) (effects : Effects σ) : Session σ :=
  { s with answers := s.answers ++ [answer], effects := effects }

/-- A session after one more move. A directive that was not read is not executed. -/
def step (s : Session σ) : Move σ → Session σ
  | .register command => { s with registry := s.registry.register command }
  | .parse stripTabs text =>
    { s with
      pool := s.pool ++ readIn s.registry stripTabs text s.effects
      effects := (parse s.registry stripTabs text s.effects).2 }
  | .execute index override =>
    match s.pool[index]? with
    | none => s
    | some d =>
      let run := d.execute s.registry override s.effects
      s.answered (.ok run.1) run.2
  | .chain index override state =>
    match s.pool[index]? with
    | none => s
    | some d =>
      let run := chainWith s.registry chainDepth d override state s.effects
      s.answered run.1.1 run.2

/-- The session that moves lead to, with nothing registered or read at first. -/
def run (e : Effects σ) (moves : List (Move σ)) : Session σ :=
  moves.foldl step { effects := e }

theorem run_concat (e : Effects σ) (moves : List (Move σ)) (move : Move σ) :
    run e (moves ++ [move]) = (run e moves).step move :=
  List.foldl_concat ..

theorem step_execute {s : Session σ} {index : Nat} {d : Directive σ} (h : s.pool[index]? = some d)
    (override : Option Value) : s.step (.execute index override) =
      s.answered (.ok (d.execute s.registry override s.effects).1)
        (d.execute s.registry override s.effects).2 := by
  simp only [step, h]

theorem step_chain {s : Session σ} {index : Nat} {d : Directive σ} (h : s.pool[index]? = some d)
    (override : Option Value) (state : ChainState) : s.step (.chain index override state) =
      s.answered (chainWith s.registry chainDepth d override state s.effects).1.1
        (chainWith s.registry chainDepth d override state s.effects).2 := by
  simp only [step, h]

end Session

/-! ### What is registered -/

/-- The command that a move registers under a name. -/
def Move.registers? (name : Text) : Move σ → Option (Command σ)
  | .register command => if command.name = name then some command else none
  | _ => none

/-- The command that moves registered last under a name. -/
def latest? (name : Text) : List (Move σ) → Option (Command σ)
  | [] => none
  | move :: moves => (latest? name moves).or (move.registers? name)

theorem latest?_concat (name : Text) (moves : List (Move σ)) (move : Move σ) :
    latest? name (moves ++ [move]) = (move.registers? name).or (latest? name moves) := by
  induction moves with
  | nil => exact (Option.or_none).symm
  | cons first moves ih => rw [List.cons_append, latest?, ih, latest?, Option.or_assoc]

namespace Session

open Directive

/-- What a move registers is what its name stands for, and it leaves the other names alone. -/
theorem resolve?_step (s : Session σ) (move : Move σ) (name : Text) :
    (s.step move).registry.resolve? name = (move.registers? name).or (s.registry.resolve? name) := by
  cases move with
  | register command =>
    rw [step, Move.registers?]
    by_cases hname : command.name = name
    · rw [if_pos hname, ← hname, Registry.resolve?_register_self]
      rfl
    · rw [if_neg hname, Registry.resolve?_register_of_ne _ (Ne.symm hname)]
      rfl
  | parse stripTabs text => rfl
  | execute index override =>
    rw [step]
    split <;> rfl
  | chain index override state =>
    rw [step]
    split <;> rfl

/-- A name stands for the command that was registered last under it. -/
theorem resolve?_run (e : Effects σ) (moves : List (Move σ)) (name : Text) :
    (run e moves).registry.resolve? name = latest? name moves := by
  induction moves using List.reverseRecOn with
  | nil => rfl
  | append_singleton moves move ih => rw [run_concat, resolve?_step, latest?_concat, ih]

/-! ### What is read -/

/-- Only parsing adds directives, and it adds what the text is read as, behind the others. -/
theorem pool_step (s : Session σ) (move : Move σ) : (s.step move).pool = s.pool ∨
    ∃ stripTabs text, move = .parse stripTabs text ∧
      (s.step move).pool = s.pool ++ readIn s.registry stripTabs text s.effects := by
  cases move with
  | register command => exact .inl rfl
  | parse stripTabs text => exact .inr ⟨stripTabs, text, rfl, rfl⟩
  | execute index override =>
    rw [step]
    split <;> exact .inl rfl
  | chain index override state =>
    rw [step]
    split <;> exact .inl rfl

/-- The directive of number `index` was read by the last of the moves `before ++ [.parse stripTabs text]`. -/
structure ReadBy (e : Effects σ) (before : List (Move σ)) (stripTabs : Bool) (text : Text) (index : Nat)
    (d : Directive σ) : Prop where
  unread : (run e before).pool.length ≤ index
  read : (run e (before ++ [.parse stripTabs text])).pool[index]? = some d

/-- What is read keeps the command that is registered at that time. -/
theorem ReadBy.exists_bound {e : Effects σ} {before : List (Move σ)} {stripTabs : Bool} {text : Text}
    {index : Nat} {d : Directive σ} (h : ReadBy e before stripTabs text index d) :
    ∃ token, d = bound (run e before).registry stripTabs text token := by
  have hread := h.read
  rw [run_concat, step, List.getElem?_append_right h.unread] at hread
  exact exists_bound_of_readIn (List.mem_of_getElem? hread)

/-- Every directive was read by one of the moves. -/
theorem exists_readBy {e : Effects σ} {moves : List (Move σ)} {index : Nat} {d : Directive σ}
    (h : (run e moves).pool[index]? = some d) : ∃ before stripTabs text after,
      moves = before ++ .parse stripTabs text :: after ∧ ReadBy e before stripTabs text index d := by
  induction moves using List.reverseRecOn with
  | nil => cases h
  | append_singleton moves move ih =>
    -- a directive with the number it had before the last move was read before it
    have hearlier (hd : (run e moves).pool[index]? = some d) : ∃ before stripTabs text after,
        moves ++ [move] = before ++ .parse stripTabs text :: after ∧
          ReadBy e before stripTabs text index d := by
      obtain ⟨before, stripTabs, text, after, rfl, hread⟩ := ih hd
      exact ⟨before, stripTabs, text, after ++ [move], by simp, hread⟩
    rcases pool_step (run e moves) move with hpool | ⟨stripTabs, text, rfl, hpool⟩
    · rw [run_concat, hpool] at h
      exact hearlier h
    · rcases Nat.lt_or_ge index (run e moves).pool.length with hlt | hge
      · rw [run_concat, hpool, List.getElem?_append_left hlt] at h
        exact hearlier h
      · exact ⟨moves, stripTabs, text, [], rfl, hge, h⟩

end Session

/-! ### What is called -/

namespace Directive

/-- What executing `d` comes to, where `atReading` was registered under its command when it was
read and `atCall` is registered now. -/
structure Calls (registry : Registry σ) (d : Directive σ) (atReading atCall : Option (Command σ)) :
    Prop where
  /-- A command from the time of reading is called, whatever is registered by now. -/
  early : ∀ c, atReading = some c → ∀ override e,
    d.execute registry override e = c.call (override.getD d.parameter) e
  /-- Where there was none, the one registered now is. -/
  late : atReading = none → ∀ c, atCall = some c → ∀ override e,
    d.execute registry override e = c.call (override.getD d.parameter) e
  /-- Where there is none either, the answer is the directive's own parameter. -/
  own : atReading = none → atCall = none → ∀ override e,
    (d.execute registry override e).1 = d.parameter ∧ (d.execute registry override e).2.world = e.world

theorem calls_of_binding (registry : Registry σ) (d : Directive σ) :
    Calls registry d d.binding (registry.resolve? d.command) where
  early := by
    intro c hc override e
    rw [execute, hc]
    rfl
  late := by
    intro hnone c hc override e
    rw [execute, hnone, hc]
    rfl
  own := by
    intro hnone hlate override e
    rw [execute, hnone, hlate]
    exact ⟨rfl, rfl⟩

end Directive

namespace Session

open Directive

/-- A directive that is bound to what is registered after the moves calls what was registered last
under its command. -/
theorem binding_eq_latest? {e : Effects σ} {moves : List (Move σ)} {d : Directive σ}
    (h : ∃ stripTabs text token, d = bound (run e moves).registry stripTabs text token) :
    d.binding = latest? d.command moves := by
  obtain ⟨stripTabs, text, token, rfl⟩ := h
  exact resolve?_run e moves _

theorem calls_of_run (e : Effects σ) (moves : List (Move σ)) (d : Directive σ) :
    Calls (run e moves).registry d d.binding (latest? d.command moves) :=
  resolve?_run e moves d.command ▸ calls_of_binding (run e moves).registry d

/-- **Which command is called.** Whatever the moves and the commands are, a directive that was read
is executed by the command that was registered last under its command's name before it was read;
if there was none, by the one registered last under the name up to the call; and if there is none
either, it answers its own decoded parameter, whatever the override. What a chain reads on its way
is bound to what is registered last up to the chain, and it executes nothing else but the directive
itself. -/
theorem calls_by_history (e : Effects σ) (moves : List (Move σ)) {index : Nat} {d : Directive σ}
    (h : (run e moves).pool[index]? = some d) :
    let s := run e moves
    (∃ before stripTabs text after, moves = before ++ .parse stripTabs text :: after ∧
      ReadBy e before stripTabs text index d ∧ d.parameter = Parameter.decode d.token.content ∧
      Calls s.registry d (latest? d.command before) (latest? d.command moves)) ∧
    (∀ override, s.step (.execute index override) =
      s.answered (.ok (d.execute s.registry override s.effects).1)
        (d.execute s.registry override s.effects).2) ∧
    (∀ stripTabs levels text e' below, (descend s.registry stripTabs levels text e').1 = .ok below →
      ∀ x ∈ below, x.binding = latest? x.command moves) ∧
    ∀ override state, ∃ known state',
      Trail.Steps s.registry ⟨[d], state, s.effects⟩
        ⟨known, state', (s.step (.chain index override state)).effects⟩ ∧
      ∀ x ∈ known, x = d ∨ x.binding = latest? x.command moves ∧
        Calls s.registry x (latest? x.command moves) (latest? x.command moves) := by
  intro s
  refine ⟨?_, step_execute h, fun _ _ _ _ _ hbelow x hx =>
    binding_eq_latest? (Trail.exists_bound_of_descend hbelow hx), fun override state => ?_⟩
  · obtain ⟨before, stripTabs, text, after, hmoves, hread⟩ := exists_readBy h
    obtain ⟨token, hd⟩ := hread.exists_bound
    have hbinding : d.binding = latest? d.command before := binding_eq_latest? ⟨stripTabs, text, token, hd⟩
    have hparameter : d.parameter = Parameter.decode d.token.content := by
      rw [hd]
      rfl
    exact ⟨before, stripTabs, text, after, hmoves, hread, hparameter, hbinding ▸ calls_of_run e moves d⟩
  · obtain ⟨known, hsteps, -⟩ := chainWith_runs s.registry chainDepth override
      (List.mem_singleton_self d) state s.effects
    refine ⟨known, _, by rw [step_chain h]; exact hsteps, fun x hx => ?_⟩
    rcases hsteps.known.2 x hx with hx | hbound
    · exact .inl (List.mem_singleton.mp hx)
    · have hlatest : x.binding = latest? x.command moves := binding_eq_latest? hbound
      have hcalls : Calls s.registry x x.binding (latest? x.command moves) := calls_of_run e moves x
      rw [hlatest] at hcalls
      exact .inr ⟨hlatest, hcalls⟩

/-- A command that puts its parameter behind a mark. -/
def marked (name mark : Text) : Command Unit :=
  ⟨name, fun v e => (.array [.text mark, v], e)⟩

/-- A text with three directives. -/
def trio : Text := "@aa::x; @bb::y; @cc::z;".toList

/-- A directive of the second command around one of the first. -/
def around : Text := "@bb: @aa::w; @end-bb".toList

/-- The command of the first directive of the three is registered before they are read and
replaced afterwards, that of the second is registered afterwards. -/
def replacing : List (Move Unit) :=
  [.register (marked ['a', 'a'] ['1']), .parse true trio, .register (marked ['a', 'a'] ['2']),
    .register (marked ['b', 'b'] ['3'])]

/-- The first directive calls the command that was replaced, the second one the new command, and
the third one none. In a chain from the first, what is read in the override calls the two commands
that are registered by then, and the first directive still its own. -/
theorem calls_by_history_replacing :
    ((run ⟨(), []⟩ replacing).step (.execute 0 (some .null))).answers =
        [.ok (.array [.text ['1'], .null])] ∧
      ((run ⟨(), []⟩ replacing).step (.execute 1 none)).answers =
        [.ok (.array [.text ['3'], .text ['y']])] ∧
      ((run ⟨(), []⟩ replacing).step (.execute 2 (some .null))).answers = [.ok (.text ['z'])] ∧
      ((run ⟨(), []⟩ replacing).step (.chain 0 (some (.text around)) {})).answers =
        [.ok (.array [.text ['1'], .array [.text ['3'], .array [.text ['2'], .text ['w']]]])] ∧
      ∃ below, (descend (run ⟨(), []⟩ replacing).registry true around.length around
          (run ⟨(), []⟩ replacing).effects).1 = .ok below ∧
        below.map (·.binding) = [some (marked ['b', 'b'] ['3']), some (marked ['a', 'a'] ['2'])] := by
  have htokens : Token.ofText true trio = .ok
      [⟨"@aa::x;".toList, ['a', 'a'], ['x'], .line, ⟨0, 7⟩, ⟨5, 6⟩⟩,
        ⟨"@bb::y;".toList, ['b', 'b'], ['y'], .line, ⟨8, 15⟩, ⟨13, 14⟩⟩,
        ⟨"@cc::z;".toList, ['c', 'c'], ['z'], .line, ⟨16, 23⟩, ⟨21, 22⟩⟩] := by
    decide +kernel
  have hpool : (run ⟨(), []⟩ replacing).pool = _ := readIn_of_ofText htokens ⟨(), []⟩
  -- all three were read by the only move that parses
  have hread {before : List (Move Unit)} {stripTabs : Bool} {text : Text} {after : List (Move Unit)}
      (h : replacing = before ++ .parse stripTabs text :: after) :
      before = [.register (marked ['a', 'a'] ['1'])] := by
    rcases before with _ | ⟨_, _ | ⟨_, _ | ⟨_, _ | ⟨_, before⟩⟩⟩⟩ <;> simp_all [replacing]
  have hexecutes {index : Nat} {d : Directive Unit} (h : (run ⟨(), []⟩ replacing).pool[index]? = some d) :
      let s := run ⟨(), []⟩ replacing
      Calls s.registry d (latest? d.command [.register (marked ['a', 'a'] ['1'])])
          (latest? d.command replacing) ∧
        ∀ override, s.step (.execute index override) =
          s.answered (.ok (d.execute s.registry override s.effects).1)
            (d.execute s.registry override s.effects).2 := by
    obtain ⟨⟨before, _, _, _, hmoves, -, -, hcalls⟩, hexecute, -⟩ :=
      calls_by_history ⟨(), []⟩ replacing h
    obtain rfl := hread hmoves
    exact ⟨hcalls, hexecute⟩
  have hfirst : (run ⟨(), []⟩ replacing).pool[0]? = some _ := congrArg (·[0]?) hpool
  have hsecond : (run ⟨(), []⟩ replacing).pool[1]? = some _ := congrArg (·[1]?) hpool
  have hthird : (run ⟨(), []⟩ replacing).pool[2]? = some _ := congrArg (·[2]?) hpool
  refine ⟨?_, ?_, ?_, by decide +kernel, ?_⟩
  · obtain ⟨hcalls, hexecute⟩ := hexecutes hfirst
    rw [hexecute, hcalls.early _ rfl]
    rfl
  · obtain ⟨hcalls, hexecute⟩ := hexecutes hsecond
    rw [hexecute, hcalls.late rfl _ rfl]
    rfl
  · obtain ⟨hcalls, hexecute⟩ := hexecutes hthird
    rw [hexecute, (hcalls.own rfl rfl _ _).1]
    rfl
  · obtain ⟨-, -, hlatest, -⟩ := calls_by_history ⟨(), []⟩ replacing hfirst
    have hwalk : (descend (run ⟨(), []⟩ replacing).registry true around.length around
        (run ⟨(), []⟩ replacing).effects).1.map (·.map (·.command)) = .ok [['b', 'b'], ['a', 'a']] := by
      decide +kernel
    obtain ⟨below, hbelow, hcommands⟩ := map_eq_ok_iff.mp hwalk
    refine ⟨below, hbelow, ?_⟩
    calc below.map (·.binding)
        = below.map (fun x => latest? x.command replacing) :=
          List.map_congr_left (hlatest _ _ _ _ below hbelow)
      _ = (below.map (·.command)).map (latest? · replacing) := by
          rw [List.map_map]
          rfl
      _ = [some (marked ['b', 'b'] ['3']), some (marked ['a', 'a'] ['2'])] := by
          rw [hcommands]
          rfl

end Session
end Directives
