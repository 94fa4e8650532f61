import Directives.Program.Shell.WordReader

/-! Reading commands.

A list of commands is read one level at a time: what stands inside of a command is read by
the functions one level further down. -/
namespace Directives.Program.Shell
open Parse

/-- The names that no function can have. -/
def specialNames : List Text :=
  [".", ":", "break", "continue", "eval", "exec", "exit", "export", "readonly", "return", "set",
    "shift", "times", "trap", "unset"]

/-- Where a word begins: blanks, comments and joined lines are passed. -/
def skipBlanks : Parse Unit :=
  loop (fun () => do
    match ← peek with
    | some c =>
      if c = ' ' || c = '\t' then
        advance
        return .inl ()
      else if c = '#' then
        modify fun s => { s with input := s.input.dropWhile (· ≠ '\n') }
        return .inl ()
      else return .inr ()
    | none => return .inr ()) ()

/-- What is done with a stream, behind the first character that says so. -/
def operator (first : Char) : Parse Operator := do
  if first = '>' then
    if ← passIf '>' then return .file .append
    if ← passIf '|' then return .file .overwrite
    if ← passIf '&' then return .same
    return .file .write
  if ← passIf '<' then return .document (← passIf '-')
  if ← passIf '&' then return .same
  if ← passIf '>' then return .file .both
  return .file .read

/-- A word, or the number in front of a redirection and the redirection. -/
def wordToken (ps : Parsers) (isMark : Bool) : Parse Token := do
  let word ← bareWord ps isMark
  let number? : Option (Option Nat) := match word.plain? with
    | some [] => some none
    | some [c] => if Octets.isDigit c then some (some (Octets.digitValue c)) else none
    | _ => none
  match number?, ← peek with
  | some number, some c =>
    if c = '<' || c = '>' then
      advance
      let operator ← operator c
      let number := number.getD (if c = '<' then 0 else 1)
      modify fun s => { s with redirect := (number, operator) }
      return ← found .redirect
    modify fun s => { s with word }
    found .word
  | _, _ =>
    modify fun s => { s with word }
    found .word

/-- The next token, whatever words mean. A word that ends a document is taken as it is. -/
def freshToken (ps : Parsers) (isMark : Bool) : Parse Token := do
  if (← get).isPutBack then
    modify fun s => { s with isPutBack := false }
    return (← get).last
  skipBlanks
  match ← peek with
  | none => found .endOfFile
  | some c =>
    if c = '\n' then
      advance
      found .lineEnd
    else if c = '&' then
      advance
      found (if ← passIf '&' then .andThen else .ampersand)
    else if c = '|' then
      advance
      found (if ← passIf '|' then .orElse else .bar)
    else if c = ';' then
      advance
      found (if ← passIf ';' then .doubleSemicolon else .semicolon)
    else if c = '(' then
      advance
      found .opening
    else if c = ')' then
      advance
      found .closing
    else wordToken ps isMark

/-- What is looked at where a token stands. -/
structure Place where
  /-- Line ends are passed. -/
  newlines : Bool := false
  keywords : Bool := false
  aliases : Bool := false

/-- Where a command begins that has to come. -/
def Place.ahead : Place := ⟨true, true, true⟩

/-- Where a command begins on the line under way. -/
def Place.command : Place := ⟨false, true, true⟩

/-- The next token that is no line end. The documents that follow the lines passed are read. -/
def tokenBehindLines (ps : Parsers) : Parse Token :=
  loop (fun () => do
    match ← freshToken ps false with
    | .lineEnd =>
      readDocuments ps
      return .inl ()
    | token => return .inr token) ()

/-- Put the text of an alias in front of what follows, if the last word is one that is not
under way itself. -/
def expandAlias : Parse Bool := do
  let s ← get
  match s.word.plain? with
  | none => return false
  | some name =>
    match s.aliases.lookup name with
    | none => return false
    | some text =>
      let left := s.input.length
      if s.expanding.any fun (other, behind) => other = name && behind ≤ left then return false
      set { s with input := text ++ s.input, expanding := (name, left) :: s.expanding }
      return true

/-- The next token. -/
def readToken (ps : Parsers) (place : Place) : Parse Token :=
  loop (fun () => do
    let token ← if place.newlines then tokenBehindLines ps else freshToken ps false
    if token ≠ .word then return .inr token
    match (← get).word.plain? with
    | none => return .inr token
    | some name =>
      if place.keywords && keywords.contains name then return .inr (← found (.keyword name))
      if place.aliases then
        if ← expandAlias then return .inl ()
      return .inr token) ()

/-- The next token where words are only words. -/
def plainToken (ps : Parsers) : Parse Token :=
  readToken ps {}

/-- Pass a token that has to come. -/
def expect (ps : Parsers) (place : Place) (token : Token) : Parse Unit := do
  if (← readToken ps place) ≠ token then unexpected (some token)

/-- A keyword as a token. -/
def Token.ofKeyword (s : String) : Token :=
  .keyword s.toList

/-- What follows a redirection. -/
def redirectTarget (ps : Parsers) : Parse Redirect := do
  let (number, operator) := (← get).redirect
  match operator with
  | .file direction =>
    if (← plainToken ps) ≠ .word then unexpected none
    return .file number direction (← get).word
  | .same =>
    if (← plainToken ps) ≠ .word then unexpected none
    return .same number (← get).word
  | .document stripsTabs =>
    if (← freshToken ps true) ≠ .word then unexpected none
    modifyGet fun s =>
      let awaited : Awaited := {
        index := s.next
        mark := s.word.literal
        stripsTabs
        expands := s.word.plain?.isSome }
      (.document number s.next,
        { s with next := s.next + 1, awaited := s.awaited ++ [awaited] })

/-- The redirections that follow a command. A keyword that follows one of them is a word. -/
def redirectsBehind (ps : Parsers) : Parse (List Redirect) :=
  loop (fun redirects => do
    match ← readToken ps (if redirects.isEmpty then .command else {}) with
    | .redirect => return .inl ((← redirectTarget ps) :: redirects)
    | _ =>
      putBack
      return .inr redirects.reverse) []

/-- A command of words under way, each list in reverse. -/
structure Words where
  assignments : List Word := []
  words : List Word := []
  redirects : List Redirect := []

/-- A function, behind the opening parenthesis. -/
def functionBehind (ps : Parsers) (name : Word) : Parse Tree := do
  expect ps {} .closing
  match name.plain? with
  | some name =>
    if !isName name || specialNames.contains name then fail .badFunctionName
    let line := (← get).line
    discard (readToken ps .ahead)
    putBack
    return .function line name (← ps.command)
  | none => fail .badFunctionName

/-- A command of words on a line, or the definition of a function. -/
def simpleCommand (ps : Parsers) : Parse Tree := do
  let line := (← get).line
  loop (fun (c : Words) => do
    let isStart := c.words.isEmpty
    match ← readToken ps { aliases := isStart } with
    | .word =>
      let word := (← get).word
      if isStart && word.assigned?.isSome then
        return .inl { c with assignments := word :: c.assignments }
      else return .inl { c with words := word :: c.words }
    | .redirect => return .inl { c with redirects := (← redirectTarget ps) :: c.redirects }
    | token =>
      if token = .opening then
        if let ⟨[], [name], []⟩ := c then return .inr (← functionBehind ps name)
      putBack
      return .inr
        (.simple line c.assignments.reverse c.words.reverse c.redirects.reverse)) {}

/-- A list of commands that has to come. There is none only where the script is over, which is
found to be wrong by what comes next. -/
def body (ps : Parsers) : Parse Tree := do
  return (← ps.list .body).getD (.simple 0 [] [] [])

/-- The tests of a branch that are still to come, and what follows each; the last test comes
first. -/
def branches (ps : Parsers) : Parse (List (Tree × Tree)) :=
  loop (fun found => do
    let test ← body ps
    expect ps {} (.ofKeyword "then")
    let success ← body ps
    let found := (test, success) :: found
    if (← plainToken ps) = .ofKeyword "elif" then return .inl found
    else return .inr found) []

/-- A branch, behind its keyword. -/
def branch (ps : Parsers) : Parse Tree := do
  let tests ← branches ps
  let failure ←
    if (← get).last = .ofKeyword "else" then do
      let failure ← body ps
      pure (some failure)
    else do
      putBack
      pure none
  let behind := tests.foldl (fun failure (test, success) => some (.branch test success failure))
  match behind failure with
  | some tree => return tree
  | none => unexpected none

/-- The words that a loop goes through, behind the keyword in front of them. -/
def loopWords (ps : Parsers) : Parse (List Word) :=
  loop (fun words => do
    match ← plainToken ps with
    | .word => return .inl ((← get).word :: words)
    | .lineEnd | .semicolon => return .inr words.reverse
    | _ => unexpected none) []

/-- A loop over words, behind its keyword. -/
def eachWord (ps : Parsers) (line : Nat) : Parse Tree := do
  let token ← plainToken ps
  let name := ((← get).word.plain?).getD []
  if token ≠ .word || !isName name then fail .badLoopVariable
  let token ← readToken ps .ahead
  let words ←
    if token = .ofKeyword "in" then loopWords ps
    else do
      if token ≠ .semicolon then putBack
      pure [[.parameter ['@'] .plain false [] true]]
  expect ps .ahead (.ofKeyword "do")
  return .each line name words (← body ps)

/-- The patterns of an arm. -/
def patterns (ps : Parsers) : Parse (List Word) :=
  loop (fun patterns => do
    let patterns := (← get).word :: patterns
    match ← plainToken ps with
    | .bar =>
      discard (plainToken ps)
      return .inl patterns
    | .closing => return .inr patterns.reverse
    | _ => unexpected (some .closing)) []

/-- The arms of a choice, up to the keyword that ends it. -/
def arms (ps : Parsers) : Parse (List Arm) := do
  let place : Place := { newlines := true, keywords := true }
  loop (fun arms => do
    let token ← readToken ps place
    if token = .ofKeyword "esac" then return .inr arms.reverse
    if token = .opening then discard (plainToken ps)
    let patterns ← patterns ps
    let arms := Arm.mk patterns (← ps.list .possiblyEmpty) :: arms
    match ← readToken ps place with
    | .doubleSemicolon => return .inl arms
    | token =>
      if token = .ofKeyword "esac" then return .inr arms.reverse
      unexpected (some .doubleSemicolon)) []

/-- A choice, behind its keyword. -/
def choice (ps : Parsers) (line : Nat) : Parse Tree := do
  expect ps {} .word
  let word := (← get).word
  expect ps .ahead (.ofKeyword "in")
  return .choice line word (← arms ps)

/-- The command that a token begins, and the token that ends it, if there is one to come. -/
def compound (ps : Parsers) (line : Nat) (token : Token) : Parse (Tree × Option Token) := do
  match token with
  | .opening => return (.subshell line (← body ps) [], some .closing)
  | .keyword name =>
    match String.ofList name with
    | "if" => return (← branch ps, some (.ofKeyword "fi"))
    | "while" | "until" =>
      let test ← body ps
      expect ps {} (.ofKeyword "do")
      return (.loop (name = "until".toList) test (← body ps), some (.ofKeyword "done"))
    | "for" => return (← eachWord ps line, some (.ofKeyword "done"))
    | "case" => return (← choice ps line, none)
    | "\x7b" => return (← body ps, some (.ofKeyword "\x7d"))
    | _ => unexpected none
  | _ => unexpected none

/-- A command, where its first token stands at a place. Redirections behind braces take the place of
those of a subshell that is alone in them. -/
def commandAt (ps : Parsers) (place : Place) : Parse Tree := do
  let line := (← get).line
  let token ← readToken ps place
  if token = .word || token = .redirect then
    putBack
    return ← simpleCommand ps
  let (tree, last) ← compound ps line token
  if let some last := last then expect ps {} last
  let redirects ← redirectsBehind ps
  match tree, redirects with
  | tree, [] => return tree
  | .subshell line body _, redirects => return .subshell line body redirects
  | tree, redirects => return .redirected line tree redirects

/-- Commands connected by bars, behind their first token if that was put back. -/
def pipeline (ps : Parsers) (place : Place) : Parse Tree := do
  let isNegated := (← readToken ps place) = .ofKeyword "!"
  if !isNegated then putBack
  let first ← commandAt ps (if isNegated then .command else {})
  let commands ← loop (fun commands => do
    if (← plainToken ps) = .bar then return .inl ((← commandAt ps .ahead) :: commands)
    else
      putBack
      return .inr commands.reverse) [first]
  let tree := match commands with
    | [tree] => tree
    | commands => .pipeline commands
  return if isNegated then .negation tree else tree

/-- Pipelines connected by conditions. -/
def andOr (ps : Parsers) : Parse Tree := do
  let first ← pipeline ps {}
  loop (fun tree => do
    match ← plainToken ps with
    | .andThen => return .inl (.both tree (← pipeline ps .ahead))
    | .orElse => return .inl (.either tree (← pipeline ps .ahead))
    | _ =>
      putBack
      return .inr tree) first

/-- A command that is not waited for. -/
def Tree.inBackground : Tree → Tree
  | .redirected line body redirects => .background line body redirects
  | tree => .background 0 tree []

/-- One step of a list of commands. -/
def listStep (ps : Parsers) (extent : Extent) (tree : Option Tree) :
    Parse (Option Tree ⊕ Option Tree) := do
  let isLine := extent = .line
  let token ← readToken ps { newlines := !isLine, keywords := true, aliases := true }
  if token = .lineEnd then
    readDocuments ps
    return .inr tree
  if token = .endOfFile then
    readDocuments ps
    putBack
    return .inr tree
  putBack
  let canEnd := extent = .possiblyEmpty || (extent = .body && tree.isSome)
  if canEnd && token.endsList then return .inr tree
  let next ← andOr ps
  let token ← plainToken ps
  let next := if token = .ampersand then next.inBackground else next
  let tree := match tree with
    | none => some next
    | some tree => some (.sequence tree next)
  match token with
  | .endOfFile =>
    readDocuments ps
    putBack
    return .inr tree
  | .lineEnd =>
    putBack
    return .inl tree
  | .ampersand | .semicolon => return .inl tree
  | _ =>
    if isLine then unexpected none
    putBack
    return .inr tree

/-- A list of commands. -/
def list (ps : Parsers) (extent : Extent) : Parse (Option Tree) :=
  loop (listStep ps extent) none

/-- The functions that read down to a depth. -/
def parsers : Nat → Parsers
  | 0 => ⟨fun _ => fail .tooDeep, fail .tooDeep, fun _ => fail .tooDeep⟩
  | depth + 1 =>
    ⟨fun extent => list (parsers depth) extent,
      fun source => commandAt (parsers depth) {} source,
      fun inside => content (parsers depth) inside⟩

/-- The command of the next line, if there is one, or that the script is over. -/
def nextCommand : Parse (Option (Option Tree)) := do
  modify fun s => { s with isPutBack := false, awaited := [] }
  let tree ← list (parsers (← bound)) .line
  if tree.isNone && (← get).last = .endOfFile then return none
  return some tree

end Directives.Program.Shell
