import Directives.Program.Shell.Source

/-! Reading words.

Where a character stands decides what it means: bare, between double quotes, inside
braces, in arithmetic or in a document. What is inside of something else is read by the
same functions one level further down, which are passed along as `Parsers`. -/
namespace Directives.Program.Shell
open Parse

/-- Where characters stand. -/
inductive Inside where
  /-- Between double quotes; `inBraces` says whether these stand in braces. -/
  | double (inBraces : Bool)
  /-- In braces, and whether these stand between double quotes. -/
  | braces (quoted : Bool)
  | arithmetic
  deriving DecidableEq, Repr

/-- How a list of commands ends. -/
inductive Extent where
  /-- At the end of the line. -/
  | line
  /-- In front of a word that ends it. -/
  | body
  /-- Likewise, and there may be nothing in it. -/
  | possiblyEmpty
  deriving DecidableEq, Repr

/-- The functions that read what is inside of something else. -/
structure Parsers where
  list : Extent → Parse (Option Tree)
  command : Parse Tree
  content : Inside → Parse Word

/-- A character that ends a word. -/
def endsWord (c : Char) : Bool :=
  "<>();&| \t\n".toList.contains c

/-- A character that is the name of a parameter. -/
def isSpecial (c : Char) : Bool :=
  "?$!-*@#".toList.contains c || Octets.isDigit c

/-- The characters of a text, quoted. -/
def quotedText (s : Text) : Word :=
  s.map fun c => .char c true

/-- What a backslash that is passed means between double quotes. -/
def escapeInDouble (inBraces keepsQuotes : Bool) : Parse Word := do
  match ← takeRaw with
  | none => return [.char '\\' true]
  | some c =>
    let alone := c = '\\' || c = '\x60' || c = '$' || (c = '"' && !keepsQuotes) ||
      (c = '\x7d' && inBraces)
    return quotedText (if alone then [c] else ['\\', c])

/-- What a backslash that is passed means elsewhere. -/
def escapeBare : Parse Word := do
  match ← takeRaw with
  | none => return [.char '\\' true]
  | some c => return [.char c true]

/-- The characters up to the next single quote. -/
def single : Parse Word := do
  let s ← get
  match Text.cutAt? '\'' s.input with
  | some (inside, rest) =>
    set { s with input := rest, line := s.line + inside.count '\n' }
    return .mark :: quotedText inside
  | none =>
    set { s with input := [], line := s.line + s.input.count '\n' }
    fail .openQuotes

/-- A word between double quotes, with a mark that there were quotes, unless all that is between
them is every parameter of the script. -/
def marked (w : Word) : Word :=
  match w with
  | [.parameter ['@'] .plain _ _ _] => w
  | _ => .mark :: w

/-- The text between backquotes, the first of which is passed, backslashes resolved. -/
def backquoted (quoted : Bool) : Parse Text :=
  loop (fun text => do
    match ← peek with
    | none => fail .openBackquotes
    | some '\x60' =>
      advance
      return .inr text.reverse
    | some '\\' =>
      advance
      match ← takeRaw with
      | none => fail .openBackquotes
      | some c =>
        let alone := c = '\\' || c = '\x60' || c = '$' || (c = '"' && quoted)
        return .inl (if alone then c :: text else c :: '\\' :: text)
    | some c =>
      advance
      return .inl (c :: text)) []

/-- Commands between backquotes, the first of which is passed. They are read as a text of their
own. -/
def oldSubstitution (ps : Parsers) (quoted : Bool) : Parse Word := do
  let text ← backquoted quoted
  let outer ← get
  set { outer with input := text, line := 1, awaited := [], isPutBack := false }
  let body ← ps.list .possiblyEmpty
  modify fun inner =>
    { inner with
      input := outer.input, line := outer.line, awaited := outer.awaited, isPutBack := false }
  return [.command body quoted]

/-- The name of a parameter in braces and what is done with it. Nothing where neither is known,
in which case the character looked at is still to come. -/
structure Header where
  name : Text
  use : Use
  emptyCounts : Bool := false

/-- What is done with the parameter of a name, behind the name. A colon alone makes a word follow,
although there is no use for one. -/
def useOf (name : Text) : Parse Header := do
  let emptyCounts ← passIf ':'
  match ← peek with
  | some c =>
    if c = '\x7d' then
      advance
      return ⟨name, .plain, emptyCounts⟩
    else if c = '-' || c = '=' || c = '?' || c = '+' then
      advance
      let use : Use :=
        if c = '-' then .otherwise else if c = '=' then .assign
        else if c = '?' then .require else .alternative
      return ⟨name, use, emptyCounts⟩
    else if (c = '#' || c = '%') && !emptyCounts then
      advance
      let longest ← passIf c
      return ⟨name, if c = '#' then .dropStart longest else .dropEnd longest, false⟩
    else
      advance
      return ⟨name, .unknown, false⟩
  | none => return ⟨name, .unknown, false⟩

/-- The name of a parameter at the start, of letters or of digits. -/
def nameHere : Parse Text := do
  match ← peek with
  | some c =>
    if Octets.isNameStart c then takeWhile Octets.isNameChar (← bound)
    else if Octets.isDigit c then takeWhile Octets.isDigit (← bound)
    else return []
  | none => return []

/-- The length of the parameter that follows. -/
def lengthOf (name : Text) : Parse Header := do
  return ⟨name, if (← peek) = some '\x7d' then .length else .unknown, false⟩

/-- What stands behind the opening brace, up to the word that follows. -/
def header : Parse Header := do
  let name ← nameHere
  if !name.isEmpty then useOf name
  else match ← peek with
    | none => return ⟨[], .unknown, false⟩
    | some '\x7d' => return ⟨[], .unknown, false⟩
    | some '#' =>
      advance
      let name ← nameHere
      if !name.isEmpty then lengthOf name
      else match ← peek with
        | some c =>
          -- The sign of a length in front of a special name, or the name itself.
          let s ← get
          advance
          if c ≠ '\x7d' && (← peek) = some '\x7d' then
            if isSpecial c then lengthOf [c] else return ⟨[], .unknown, false⟩
          else
            set s
            useOf ['#']
        | none => useOf ['#']
    | some c =>
      advance
      if isSpecial c then useOf [c] else return ⟨[], .unknown, false⟩

/-- A parameter in braces, the first of which is passed. `outer` says where the dollar sign
stands. -/
def braced (ps : Parsers) (outer : Option Inside) (quoted : Bool) : Parse Word := do
  let h ← header
  if h.use = .plain && !h.emptyCounts then return [.parameter h.name .plain false [] quoted]
  let bare := match h.use, outer with
    | .dropStart _, _ | .dropEnd _, _ => true
    | _, none | _, some (.braces false) => true
    | _, _ => false
  let word ← ps.content (.braces (!bare))
  return [.parameter h.name h.use h.emptyCounts word quoted]

/-- What a dollar sign that is passed begins. -/
def dollar (ps : Parsers) (outer : Option Inside) (quoted : Bool) : Parse Word := do
  match ← peek with
  | some '(' =>
    advance
    if ← passIf '(' then return [.arithmetic (← ps.content .arithmetic) quoted]
    let awaited := (← get).awaited
    modify fun s => { s with awaited := [], isPutBack := false }
    let body ← ps.list .possiblyEmpty
    let s ← get
    if s.last ≠ .closing then unexpected (some .closing)
    let unread := s.awaited.map fun a => (a.index, [])
    set { s with awaited, isPutBack := false, documents := unread ++ s.documents }
    return [.command body quoted]
  | some '\x7b' =>
    advance
    braced ps outer quoted
  | some c =>
    if Octets.isNameStart c then
      return [.parameter (← takeWhile Octets.isNameChar (← bound)) .plain false [] quoted]
    else if isSpecial c then
      advance
      return [.parameter [c] .plain false [] quoted]
    else return [.char '$' quoted]
  | none => return [.char '$' quoted]

/-- What is read inside of something, so far in reverse. -/
structure Reading where
  pieces : List Word := []
  /-- Parentheses that are open in arithmetic. -/
  depth : Nat := 0
  /-- Whether double quotes are open inside of braces that are quoted themselves. -/
  isInner : Bool := false

/-- One more piece. -/
def Reading.push (r : Reading) (w : Word) : Reading :=
  { r with pieces := w :: r.pieces }

/-- The word that was read. -/
def Reading.word (r : Reading) : Word :=
  r.pieces.reverse.flatten

/-- One step inside of double quotes. -/
def doubleStep (ps : Parsers) (inBraces : Bool) (r : Reading) : Parse (Reading ⊕ Word) := do
  match ← peek with
  | none => fail .openQuotes
  | some c =>
    advance
    if c = '"' then return .inr (marked r.word)
    else if c = '\\' then return .inl (r.push (← escapeInDouble inBraces false))
    else if c = '$' then return .inl (r.push (← dollar ps (some (.double inBraces)) true))
    else if c = '\x60' then return .inl (r.push (← oldSubstitution ps true))
    else return .inl (r.push [.char c true])

/-- One step inside of braces that stand between double quotes or in arithmetic. -/
def quotedBraceStep (ps : Parsers) (r : Reading) : Parse (Reading ⊕ Word) := do
  match ← peek with
  | none => fail .openQuotes
  | some c =>
    advance
    if c = '\x7d' && !r.isInner then return .inr r.word
    else if c = '"' then return .inl { r with isInner := !r.isInner }
    else if c = '\\' then return .inl (r.push (← escapeInDouble true false))
    else if c = '$' then return .inl (r.push (← dollar ps (some (.braces true)) true))
    else if c = '\x60' then return .inl (r.push (← oldSubstitution ps true))
    else return .inl (r.push [.char c true])

/-- One step inside of other braces. -/
def braceStep (ps : Parsers) (r : Reading) : Parse (Reading ⊕ Word) := do
  match ← peek with
  | none => fail .openBrace
  | some c =>
    advance
    if c = '\x7d' then return .inr r.word
    else if c = '\'' then return .inl (r.push (← single))
    else if c = '"' then return .inl (r.push (← ps.content (.double true)))
    else if c = '\\' then return .inl (r.push (← escapeBare))
    else if c = '$' then return .inl (r.push (← dollar ps (some (.braces false)) false))
    else if c = '\x60' then return .inl (r.push (← oldSubstitution ps false))
    else return .inl (r.push [.char c false])

/-- One step in arithmetic. -/
def arithmeticStep (ps : Parsers) (r : Reading) : Parse (Reading ⊕ Word) := do
  match ← peek with
  | none => fail .openArithmetic
  | some c =>
    advance
    if c = '(' then return .inl { r.push [.char c true] with depth := r.depth + 1 }
    else if c = ')' then
      if 0 < r.depth then return .inl { r.push [.char c true] with depth := r.depth - 1 }
      else if ← passIf ')' then return .inr r.word
      else return .inl (r.push [.char c true])
    else if c = '\\' then return .inl (r.push (← escapeInDouble false false))
    else if c = '$' then return .inl (r.push (← dollar ps (some .arithmetic) true))
    else if c = '\x60' then return .inl (r.push (← oldSubstitution ps true))
    else return .inl (r.push [.char c true])

/-- What is inside of something. -/
def content (ps : Parsers) : Inside → Parse Word
  | .double inBraces => loop (doubleStep ps inBraces) {}
  | .braces true => loop (quotedBraceStep ps) {}
  | .braces false => loop (braceStep ps) {}
  | .arithmetic => loop (arithmeticStep ps) {}

/-- One step of a word that stands bare. A word that ends a document is taken as it is. -/
def bareStep (ps : Parsers) (isMark : Bool) (r : Reading) : Parse (Reading ⊕ Word) := do
  match ← peek with
  | none => return .inr r.word
  | some c =>
    if endsWord c then return .inr r.word
    advance
    if c = '\'' then return .inl (r.push (← single))
    else if c = '"' then return .inl (r.push (← ps.content (.double false)))
    else if c = '\\' then return .inl (r.push (← escapeBare))
    else if isMark then return .inl (r.push [.char c false])
    else if c = '$' then return .inl (r.push (← dollar ps none false))
    else if c = '\x60' then return .inl (r.push (← oldSubstitution ps false))
    else return .inl (r.push [.char c false])

/-- A word that stands bare. -/
def bareWord (ps : Parsers) (isMark : Bool) : Parse Word :=
  loop (bareStep ps isMark) {}

/-- Whether a line of the input is the one that ends a document, and what follows it. -/
def markHere? (a : Awaited) (input : Text) : Option Text :=
  match Text.after? a.mark input with
  | some [] => some []
  | some ('\n' :: rest) => some rest
  | _ => none

/-- The end of a document, if a line begins here that is one; tabs in front of it go. -/
def endOfDocument (a : Awaited) : Parse Bool := do
  modify fun s =>
    { s with input := if a.stripsTabs then s.input.dropWhile (· = '\t') else s.input }
  match markHere? a (← get).input with
  | some rest =>
    modify fun s => { s with input := rest, line := s.line + 1 }
    return true
  | none => return false

/-- One line of a document without expansions. -/
def rawLine (a : Awaited) (lines : List Text) : Parse (List Text ⊕ Word) := do
  let s ← get
  let complete : List Text ⊕ Word := .inr (quotedText lines.reverse.flatten)
  if ← endOfDocument a then return complete
  match Text.cutAt? '\n' (← get).input with
  | some (line, rest) =>
    modify fun s => { s with input := rest, line := s.line + 1 }
    return .inl ((line ++ ['\n']) :: lines)
  | none =>
    let last := (← get).input
    set { s with input := [] }
    return if last.isEmpty then complete else .inr (quotedText (last :: lines).reverse.flatten)

/-- One step of a document with expansions; a piece and whether a line begins behind it. -/
def documentStep (ps : Parsers) (a : Awaited) (state : Reading × Bool) :
    Parse ((Reading × Bool) ⊕ Word) := do
  let (r, isStart) := state
  let isOver ← if isStart then endOfDocument a else pure false
  if isOver then return .inr r.word
  match ← peek with
  | none => return .inr r.word
  | some c =>
    advance
    if c = '\\' then return .inl (r.push (← escapeInDouble false true), false)
    else if c = '$' then return .inl (r.push (← dollar ps (some (.double false)) true), false)
    else if c = '\x60' then return .inl (r.push (← oldSubstitution ps true), false)
    else return .inl (r.push [.char c true], c = '\n')

/-- The documents that follow the line under way. -/
def readDocuments (ps : Parsers) : Parse Unit := do
  let awaited := (← get).awaited
  modify fun s => { s with awaited := [] }
  for a in awaited do
    let word ←
      if a.expands then loop (documentStep ps a) ({}, true) else loop (rawLine a) []
    modify fun s => { s with documents := (a.index, word) :: s.documents }

end Directives.Program.Shell
