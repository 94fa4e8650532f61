import Directives.Program.Octets

/-! What scripts are made of.

A script is a list of commands. Its words are pieces: characters, each of which knows
whether it was quoted, and expansions, which are carried out when the command is run. -/
namespace Directives.Program.Shell

/-- What an expansion of a parameter does with the value. -/
inductive Use where
  | plain
  /-- The number of bytes. -/
  | length
  /-- A word instead, where there is no value. -/
  | otherwise
  /-- A word instead, which becomes the value. -/
  | assign
  /-- A word is the message, where there is no value. -/
  | require
  /-- A word instead, where there is a value. -/
  | alternative
  /-- The start that matches a pattern goes, the longest one or the shortest. -/
  | dropStart (longest : Bool)
  /-- The end that matches a pattern goes. -/
  | dropEnd (longest : Bool)
  /-- None that is known. -/
  | unknown
  deriving DecidableEq, Repr

/-- How a file is opened that a stream is sent to. -/
inductive Direction where
  | read
  | write
  /-- To write, even into a file that is to be kept. -/
  | overwrite
  | append
  | both
  deriving DecidableEq, Repr

mutual

/-- A piece of a word. -/
inductive Piece where
  | char (c : Char) (quoted : Bool)
  /-- Quotes, even around nothing. -/
  | mark
  | parameter (name : Text) (use : Use) (emptyCounts : Bool) (word : List Piece) (quoted : Bool)
  /-- The output of commands. -/
  | command (body : Option Tree) (quoted : Bool)
  | arithmetic (expression : List Piece) (quoted : Bool)

/-- Where a stream is sent. -/
inductive Redirect where
  | file (number : Nat) (direction : Direction) (name : List Piece)
  | same (number : Nat) (target : List Piece)
  /-- A document in the script, known by its number. -/
  | document (number : Nat) (index : Nat)

/-- A command. -/
inductive Tree where
  | simple (line : Nat) (assignments words : List (List Piece)) (redirects : List Redirect)
  | redirected (line : Nat) (body : Tree) (redirects : List Redirect)
  | pipeline (commands : List Tree)
  | background (line : Nat) (body : Tree) (redirects : List Redirect)
  | subshell (line : Nat) (body : Tree) (redirects : List Redirect)
  /-- The second one after the success of the first. -/
  | both (first second : Tree)
  /-- The second one after the failure of the first. -/
  | either (first second : Tree)
  | sequence (first second : Tree)
  | negation (body : Tree)
  | branch (test success : Tree) (failure : Option Tree)
  /-- As long as the test fails, or succeeds. -/
  | loop (untilSuccess : Bool) (test body : Tree)
  /-- Once for each word. -/
  | each (line : Nat) (name : Text) (words : List (List Piece)) (body : Tree)
  | choice (line : Nat) (word : List Piece) (arms : List Arm)
  | function (line : Nat) (name : Text) (body : Tree)

/-- Patterns, and what is done where one of them matches. -/
inductive Arm where
  | mk (patterns : List (List Piece)) (body : Option Tree)

end

/-- A word before its expansions. -/
abbrev Word := List Piece

/-- The word of characters without quotes. -/
def Word.ofText (s : Text) : Word :=
  s.map fun c => .char c false

/-- The characters of a word that has nothing but unquoted ones. -/
def Word.plain? : Word → Option Text
  | [] => some []
  | .char c false :: rest => (plain? rest).map (c :: ·)
  | _ => none

/-- The characters of a word that has no expansions, quotes gone. -/
def Word.literal : Word → Text
  | [] => []
  | .char c _ :: rest => c :: literal rest
  | _ :: rest => literal rest

/-- The unquoted characters at the start of a word. -/
def Word.leading : Word → Text
  | .char c false :: rest => c :: leading rest
  | _ => []

/-- Whether a text is the name of a variable. -/
def isName (s : Text) : Bool :=
  match s with
  | [] => false
  | c :: cs => Octets.isNameStart c && cs.all Octets.isNameChar

/-- The name in front of the equals sign, if a word is an assignment. -/
def Word.assigned? (w : Word) : Option Text :=
  match Text.cutAt? '=' w.leading with
  | some (name, _) => if isName name then some name else none
  | none => none

end Directives.Program.Shell
