import Directives.Directive

/-! Directives inside parameters.

A parameter may itself be a directive. A chain goes down through such parameters,
following the first directive at each level, and then calls the commands from the
innermost outwards, each on the result of the one before. Results are looked at in
the same way; the names of the commands that started a chain are kept, and a
command among them is called without starting another, so that a command that
answers its own directive is not followed forever. -/
namespace Directives

/-- The commands that started a chain, the last one at the end. -/
structure ChainState where
  tracked : List Text := []
  deriving DecidableEq, Repr, Inhabited

namespace ChainState

/-- The command that started the last chain. -/
def trackedName? (state : ChainState) : Option Text :=
  state.tracked.getLast?

/-- Whether a command started a chain. -/
def isTracked (state : ChainState) (command : Text) : Bool :=
  state.tracked.contains command

/-- One more command. -/
def track (state : ChainState) (command : Text) : ChainState :=
  ⟨state.tracked ++ [command]⟩

end ChainState

/-- Why a chain has no result. -/
inductive ChainFailure where
  | grammar (error : GrammarError)
  /-- Chains were started inside one another beyond the given depth. -/
  | tooDeep
  deriving DecidableEq, Repr

/-- The text of a value that is one directive. -/
def nestedText? (v : Value) : Option Text :=
  v.text?.filter isDirective

namespace Directive

variable {σ : Type}

/-- The directives from `text` inwards: the first directive of the text, the first one of its
parameter if that is a directive, and so on. Each text is shorter than the one before,
so that as many levels as there are characters are enough. -/
def descend (registry : Registry σ) (stripTabs : Bool) :
    Nat → Text → Act σ (Except GrammarError (List (Directive σ)))
  | 0, _ => pure (.ok [])
  | levels + 1, text => do
    match ← parse registry stripTabs text with
    | .error e => return .error e
    | .ok [] => return .ok []
    | .ok (d :: _) =>
      match nestedText? d.parameter with
      | none => return .ok [d]
      | some inner =>
        let below ← descend registry stripTabs levels inner
        return below.map (d :: ·)

/-- The outcome of a chain and the commands that started one. -/
abbrev Chained := Except ChainFailure Value × ChainState

/-- Call directives one after the other by `call`, each on the result of the one before. -/
def feed (call : Directive σ → Value → ChainState → Act σ Chained) :
    List (Directive σ) → Value → ChainState → Act σ Chained
  | [], v, state => pure (.ok v, state)
  | d :: ds, v, state => do
    match ← call d v state with
    | (.ok v, state) => feed call ds v state
    | (.error e, state) => return (.error e, state)

/-- Execute a directive after the directives in its parameter, with at most `depth` chains
inside one another. -/
def chainWith (registry : Registry σ) :
    Nat → Directive σ → Option Value → ChainState → Act σ Chained
  | 0, _, _, state => pure (.error .tooDeep, state)
  | depth + 1, d, override, state =>
    match nestedText? (override.getD d.parameter) with
    | none => do return (.ok (← d.execute registry override), state)
    | some text =>
      if state.isTracked d.command then do
        report (.alreadyChaining d.command)
        return (.ok (← d.execute registry override), state)
      else do
        let state := state.track d.command
        match ← descend registry d.stripTabs text.length text with
        | .error e => return (.error (.grammar e), state)
        | .ok below =>
          report (.chainResolved d.command (below.length + 1))
          let stack := d :: below
          let innermost := below.getLast?.getD d
          feed (fun e v => chainWith registry depth e (some v)) stack.reverse innermost.parameter
            state

/-- How many chains may be started inside one another. Each one tracks a further command, so
that only commands that answer ever new names come near it. -/
def chainDepth : Nat := 4096

/-- Execute a directive after the directives in its parameter. -/
def chain (registry : Registry σ) (d : Directive σ) (override : Option Value) :
    Act σ (Except ChainFailure Value) :=
  Prod.fst <$> chainWith registry chainDepth d override {}

end Directive
end Directives
