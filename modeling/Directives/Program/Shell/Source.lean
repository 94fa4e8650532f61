import Directives.Program.Shell.Syntax

/-! The text of a script while it is read.

Reading goes forward only, except that one token can be put back. A backslash in front
of a line feed joins two lines wherever no single quotes are open. -/
namespace Directives.Program.Shell

/-- What a script is read as, before its structure. -/
inductive Token where
  | endOfFile
  | lineEnd
  | semicolon
  | ampersand
  | andThen
  | orElse
  | bar
  | opening
  | closing
  | doubleSemicolon
  | redirect
  | word
  | keyword (s : Text)
  deriving DecidableEq, Repr

/-- The words that have a meaning of their own where a command begins. -/
def keywords : List Text :=
  ["!", "case", "do", "done", "elif", "else", "esac", "fi", "for", "if", "in", "then", "until",
    "while", "\x7b", "\x7d"]

/-- A token in messages. -/
def Token.shown : Token → Text
  | .endOfFile => "end of file"
  | .lineEnd => "newline"
  | .semicolon => "\";\""
  | .ampersand => "\"&\""
  | .andThen => "\"&&\""
  | .orElse => "\"||\""
  | .bar => "\"|\""
  | .opening => "\"(\""
  | .closing => "\")\""
  | .doubleSemicolon => "\";;\""
  | .redirect => "redirection"
  | .word => "word"
  | .keyword s => '"' :: (s ++ ['"'])

/-- Whether a token ends a list of commands. -/
def Token.endsList : Token → Bool
  | .endOfFile | .closing | .doubleSemicolon => true
  | .keyword s =>
    ["do", "done", "elif", "else", "esac", "fi", "then", "\x7d"].any fun w => s = w.toList
  | _ => false

/-- What is wrong with a script. -/
inductive Mistake where
  | unexpected (token : Token) (expected : Option Token)
  | openQuotes
  | openBackquotes
  | openBrace
  | openArithmetic
  | badLoopVariable
  | badFunctionName
  | tooDeep
  deriving DecidableEq, Repr

/-- What is said about a mistake. -/
def Mistake.message : Mistake → Text
  | .unexpected token none => token.shown ++ " unexpected"
  | .unexpected token (some expected) =>
    token.shown ++ " unexpected (expecting " ++ expected.shown ++ ")"
  | .openQuotes => "Unterminated quoted string"
  | .openBackquotes => "EOF in backquote substitution"
  | .openBrace => "Missing '\x7d'"
  | .openArithmetic => "Missing '))'"
  | .badLoopVariable => "Bad for loop variable"
  | .badFunctionName => "Bad function name"
  | .tooDeep => "Nested too deeply"

/-- A mistake and the line it is on. -/
structure SyntaxFault where
  line : Nat
  mistake : Mistake
  deriving DecidableEq, Repr

/-- A document that follows the line under way. -/
structure Awaited where
  index : Nat
  /-- The line that ends it. -/
  mark : Text
  /-- Tabs in front of its lines go. -/
  stripsTabs : Bool
  /-- There are expansions in it. -/
  expands : Bool

/-- What a redirection is before its target. -/
inductive Operator where
  | file (direction : Direction)
  | same
  | document (stripsTabs : Bool)
  deriving DecidableEq, Repr

/-- A script under way. -/
structure Source where
  input : Text
  line : Nat := 1
  /-- The last token, and whether it is to be read again. -/
  last : Token := .lineEnd
  isPutBack : Bool := false
  /-- The last word. -/
  word : Word := []
  /-- The last redirection: the number of the stream and what is done with it. -/
  redirect : Nat × Operator := (0, .same)
  awaited : List Awaited := []
  /-- The documents that were read. -/
  documents : List (Nat × Word) := []
  /-- The number of the next document. -/
  next : Nat := 0
  /-- Words that stand for a text. -/
  aliases : List (Text × Text) := []
  /-- The aliases whose text was put in front, and how much was left behind it. -/
  expanding : List (Text × Nat) := []

/-- An action that reads on. -/
abbrev Parse := StateT Source (Except SyntaxFault)

namespace Parse

/-- End with a mistake on the line under way. -/
def fail (mistake : Mistake) : Parse α := do
  throw ⟨(← get).line, mistake⟩

/-- The last token is not one that can stand there. -/
def unexpected (expected : Option Token) : Parse α := do
  fail (.unexpected (← get).last expected)

/-- The input without joined lines at its start, and how many there were. -/
def joined : Text → Text × Nat
  | '\\' :: '\n' :: rest => let (rest, n) := joined rest; (rest, n + 1)
  | s => (s, 0)

/-- The next character, lines joined. -/
def peek : Parse (Option Char) :=
  modifyGet fun s =>
    let (input, n) := joined s.input
    (input.head?, { s with input, line := s.line + n })

/-- Pass one character. -/
def advance : Parse Unit :=
  modify fun s =>
    { s with
      input := s.input.tail
      line := if s.input.head? = some '\n' then s.line + 1 else s.line }

/-- Pass the next character if it is the one given, lines joined. -/
def passIf (c : Char) : Parse Bool := do
  if (← peek) = some c then
    advance
    return true
  else return false

/-- Pass one character and answer it, lines not joined. -/
def takeRaw : Parse (Option Char) := do
  let c := (← get).input.head?
  advance
  return c

/-- Pass the characters at the start that are in a class, lines joined; in at most `tries`
steps. -/
def takeWhile (p : Char → Bool) : Nat → Parse Text
  | 0 => return []
  | tries + 1 => do
    match ← peek with
    | some c =>
      if p c then
        advance
        return c :: (← takeWhile p tries)
      else return []
    | none => return []

/-- How many steps the rest of the input can take. -/
def bound : Parse Nat := do
  let s ← get
  let most := (s.aliases.map (·.2.length)).foldl (· + ·) 1
  return (s.input.length + 1) * most

/-- Do a step again and again until it answers, at most `tries` times. -/
def iterate (step : α → Parse (α ⊕ β)) : Nat → α → Parse β
  | 0, _ => fail .tooDeep
  | tries + 1, a => do
    match ← step a with
    | .inl a => iterate step tries a
    | .inr b => return b

/-- Do a step until it answers, at most once for each character and once more. -/
def loop (step : α → Parse (α ⊕ β)) (a : α) : Parse β := do
  iterate step ((← bound) + 1) a

/-- The last token is to be read again. -/
def putBack : Parse Unit :=
  modify fun s => { s with isPutBack := true }

/-- Remember a token. -/
def found (token : Token) : Parse Token := do
  modify fun s => { s with last := token }
  return token

end Parse
end Directives.Program.Shell
