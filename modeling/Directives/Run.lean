import Directives.Chain

/-! Running the directives of a text.

Each directive of the text is executed in order, each with a chain of its own. -/
namespace Directives

/-- What became of one directive. -/
structure Outcome where
  command : Text
  matched : Text
  resolved : Bool
  result : Value
  deriving Repr

variable {σ : Type}

/-- Execute one directive, with the directives in its parameter if `chain` is set. -/
def Directive.outcome (registry : Registry σ) (chain : Bool) (d : Directive σ) :
    Act σ (Except ChainFailure Outcome) := do
  let result ← if chain then d.chain registry none else .ok <$> d.execute registry none
  return result.map fun v => ⟨d.command, d.token.matched, d.isResolved, v⟩

/-- Execute directives in order, up to the first failure. -/
def runAll (registry : Registry σ) (chain : Bool) :
    List (Directive σ) → Act σ (Except ChainFailure (List Outcome))
  | [] => pure (.ok [])
  | d :: ds => do
    match ← d.outcome registry chain with
    | .error e => return .error e
    | .ok outcome =>
      let outcomes ← runAll registry chain ds
      return outcomes.map (outcome :: ·)

/-- Execute the directives of a text. -/
def runText (registry : Registry σ) (stripTabs chain : Bool) (text : Text) :
    Act σ (Except ChainFailure (List Outcome)) := do
  match ← Directive.parse registry stripTabs text with
  | .error e => return .error (.grammar e)
  | .ok directives => runAll registry chain directives

end Directives
