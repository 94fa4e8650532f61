import Directives.Program.Octets

/-! Options in front of and between operands.

An option is a letter behind a hyphen, several of them behind one, or a word behind
two, which may be cut short as long as only one word is meant. `--` ends the options. -/
namespace Directives.Program

/-- The options that a program knows: letters, and words with the letter each stands for. -/
structure Options where
  letters : Text
  words : List (Text × Char)
  /-- Whether options may stand behind operands. -/
  mixed : Bool

namespace Options

/-- What is wrong with an option. -/
inductive Fault where
  | unknownLetter (letter : Char)
  | unknownWord (written : Text)
  | ambiguous (written : Text) (candidates : List Text)
  | unwantedValue (word : Text)
  deriving DecidableEq, Repr

/-- What is said about a fault. -/
def Fault.message : Fault → Text
  | .unknownLetter letter => "invalid option -- '" ++ [letter, '\'']
  | .unknownWord written => "unrecognized option '--" ++ written ++ "'"
  | .ambiguous written candidates =>
    "option '--" ++ written ++ "' is ambiguous; possibilities:" ++
      candidates.flatMap fun word => " '--".toList ++ word ++ ['\'']
  | .unwantedValue word => "option '--" ++ word ++ "' doesn't allow an argument"

/-- The letters given and the operands. -/
structure Parsed where
  letters : Text := []
  operands : List Text := []
  deriving DecidableEq, Repr

/-- More letters in front. -/
def Parsed.withLetters (letters : Text) (p : Parsed) : Parsed :=
  { p with letters := letters ++ p.letters }

/-- The letter of a word, which may be cut short and may have a value behind `=`. -/
def word (o : Options) (written : Text) : Except Fault Char :=
  let (name, value) := match Text.cutAt? '=' written with
    | some (name, value) => (name, some value)
    | none => (written, none)
  let candidates := o.words.filter fun (word, _) => name.isPrefixOf word
  let exact := candidates.filter fun (word, _) => word = name
  match if exact.isEmpty then candidates else exact with
  | [(word, letter)] => if value.isSome then .error (.unwantedValue word) else .ok letter
  | [] => .error (.unknownWord written)
  | several => .error (.ambiguous written (several.map (·.1)))

/-- Letters behind one hyphen, all of which have to be known. -/
def short (o : Options) (letters : Text) : Except Fault Text :=
  match letters.find? fun letter => !o.letters.contains letter with
  | some letter => .error (.unknownLetter letter)
  | none => .ok letters

/-- Read arguments. -/
def read (o : Options) : List Text → Except Fault Parsed
  | [] => .ok {}
  | arg :: args =>
    match arg with
    | ['-', '-'] => .ok { operands := args }
    | '-' :: '-' :: written => do
      let letter ← o.word written
      return (← read o args).withLetters [letter]
    | '-' :: c :: cs => do
      let letters ← o.short (c :: cs)
      return (← read o args).withLetters letters
    | _ =>
      if o.mixed then do
        let rest ← read o args
        return { rest with operands := arg :: rest.operands }
      else .ok { operands := arg :: args }

end Options
end Directives.Program
