import Directives.Toml.Scalar

/-! Reading TOML.

A document is a text in lines, each an assignment, a header or nothing, with a
comment behind it or not. Where a reader works its way through a text it has a number
of tries, of which each step uses one; the length of the text is always enough. -/
namespace Directives.Toml.Read

/-! ### Space, comments and line ends -/

/-- A blank within a line. -/
def isSpace (c : Char) : Bool :=
  c == ' ' || c == '\t'

/-- The text behind the blanks in front of it. -/
def skipSpace (s : Text) : Text :=
  s.dropWhile isSpace

/-- A control character that may not stand in a line. -/
def isControl (c : Char) : Bool :=
  (c.toNat < 0x20 && c != '\t') || c.toNat == 0x7F

/-- What follows a line end. -/
def lineEnd? : Text → Option Text
  | '\n' :: rest => some rest
  | '\r' :: '\n' :: rest => some rest
  | _ => none

/-- Past a comment up to the line end, if there is a comment. -/
def skipComment (s : Text) : Text :=
  match s with
  | '#' :: rest => rest.dropWhile fun c => !isControl c
  | _ => s

/-- Past the rest of a line on which nothing more stands. -/
def restOfLine? (s : Text) : Option Text :=
  match skipComment (skipSpace s) with
  | [] => some []
  | s => lineEnd? s

/-- Past space, comments and line ends. -/
def skipLines : Nat → Text → Text
  | 0, s => s
  | tries + 1, s =>
    let s := skipComment (skipSpace s)
    match lineEnd? s with
    | some rest => skipLines tries rest
    | none => s

/-! ### Strings -/

/-- The value of hexadecimal digits. -/
def hexValue (s : Text) : Nat :=
  s.foldl (fun n c =>
    n * 16 + (if c.isDigit then c.toNat - '0'.toNat else c.toLower.toNat - 'a'.toNat + 10)) 0

/-- The character with a code point of `count` hexadecimal digits, and what follows. -/
def codePoint? (count : Nat) (s : Text) : Option (Char × Text) :=
  let ds := s.take count
  let n := hexValue ds
  if ds.length == count && ds.all isHexDigit && n.isValidChar then some (Char.ofNat n, s.drop count)
  else none

/-- The character of an escape whose backslash is passed, and what follows. -/
def escape? : Text → Option (Char × Text)
  | 'b' :: rest => some ('\x08', rest)
  | 't' :: rest => some ('\t', rest)
  | 'n' :: rest => some ('\n', rest)
  | 'f' :: rest => some ('\x0c', rest)
  | 'r' :: rest => some ('\r', rest)
  | 'e' :: rest => some ('\x1b', rest)
  | '"' :: rest => some ('"', rest)
  | '\\' :: rest => some ('\\', rest)
  | 'x' :: rest => codePoint? 2 rest
  | 'u' :: rest => codePoint? 4 rest
  | 'U' :: rest => codePoint? 8 rest
  | _ => none

/-- A string on one line up to its closing quote; with `escapes` a backslash begins an
escape. -/
def string? (quote : Char) (escapes : Bool) : Nat → Text → Option (Text × Text)
  | 0, _ => none
  | _, [] => none
  | tries + 1, c :: cs =>
    if c = quote then some ([], cs)
    else if escapes && c = '\\' then do
      let (ch, rest) ← escape? cs
      let (s, rest) ← string? quote escapes tries rest
      some (ch :: s, rest)
    else if isControl c then none
    else (string? quote escapes tries cs).map fun (s, rest) => (c :: s, rest)

/-- Past space and line ends. -/
def skipBreaks : Nat → Text → Text
  | 0, s => s
  | tries + 1, s =>
    match lineEnd? (skipSpace s) with
    | some rest => skipBreaks tries rest
    | none => skipSpace s

/-- Past the blank rest of a line and all space and line ends behind it, if the line has
nothing more. -/
def skipLineBreak? (s : Text) : Option Text :=
  (lineEnd? (skipSpace s)).map fun rest => skipBreaks rest.length rest

/-- A string over several lines up to its closing quotes; the last two of up to five quotes
in a row may belong to the string. Line ends stay as they are. -/
def longString? (quote : Char) (escapes : Bool) : Nat → Text → Option (Text × Text)
  | 0, _ => none
  | _, [] => none
  | tries + 1, c :: cs =>
    let quotes := (c :: cs).takeWhile (· == quote)
    if 3 ≤ quotes.length then
      if quotes.length ≤ 5 then some (quotes.drop 3, (c :: cs).drop quotes.length) else none
    else if escapes && c = '\\' then
      match skipLineBreak? cs with
      | some rest => longString? quote escapes tries rest
      | none => do
        let (ch, rest) ← escape? cs
        let (s, rest) ← longString? quote escapes tries rest
        some (ch :: s, rest)
    else if isControl c && (lineEnd? (c :: cs)).isNone then none
    else (longString? quote escapes tries cs).map fun (s, rest) => (c :: s, rest)

/-- The string at the start of a text, of any kind. -/
def anyString? (s : Text) : Option (Text × Text) :=
  match s with
  | '"' :: '"' :: '"' :: rest => longString? '"' true rest.length ((lineEnd? rest).getD rest)
  | '\'' :: '\'' :: '\'' :: rest => longString? '\'' false rest.length ((lineEnd? rest).getD rest)
  | '"' :: rest => string? '"' true rest.length rest
  | '\'' :: rest => string? '\'' false rest.length rest
  | _ => none

/-! ### Keys -/

/-- A character of a key without quotes. -/
def isBare (c : Char) : Bool :=
  c.isAlphanum || c == '_' || c == '-'

/-- One key, with or without quotes. -/
def simpleKey? (s : Text) : Option (Text × Text) :=
  match s with
  | '"' :: rest => string? '"' true rest.length rest
  | '\'' :: rest => string? '\'' false rest.length rest
  | _ =>
    match s.takeWhile isBare with
    | [] => none
    | key => some (key, s.dropWhile isBare)

/-- The depth that keys, and values in one another, may have. -/
def depthLimit : Nat := 80

/-- At most the given number of keys with points between them, and what follows the space
behind them. -/
def keys? : Nat → Text → Option (List Text × Text)
  | 0, _ => none
  | levels + 1, s => do
    let (first, rest) ← simpleKey? s
    match skipSpace rest with
    | '.' :: rest => do
      let (others, rest) ← keys? levels (skipSpace rest)
      some (first :: others, rest)
    | rest => some ([first], rest)

/-- A key, and what follows the space behind it. -/
def key? (s : Text) : Option (List Text × Text) :=
  keys? depthLimit s

/-! ### Values -/

/-- A character of a number, a date or a boolean, well-formed or not. -/
def isWord (c : Char) : Bool :=
  !(isSpace c || c == '\n' || c == '\r' || "#=,[]\x7b\x7d".toList.contains c)

/-- The word at the start of a text; a day and a time may have a space between them. -/
def word (s : Text) : Text × Text :=
  let first := s.takeWhile isWord
  match s.dropWhile isWord with
  | ' ' :: rest =>
    if isDay first && (rest.take 2).all Char.isDigit && (rest.drop 2).head? == some ':' then
      (first ++ ' ' :: rest.takeWhile isWord, rest.dropWhile isWord)
    else (first, ' ' :: rest)
  | rest => (first, rest)

/-- Past space, comments and line ends, however many. -/
def skipAll (s : Text) : Text :=
  skipLines s.length s

mutual

/-- The value at the start of a text, of at most the given depth, and what follows. -/
def value? (depth : Nat) : Nat → Text → Option (Item × Text)
  | 0, _ => none
  | tries + 1, s =>
    match s with
    | '"' :: _ | '\'' :: _ => (anyString? s).map fun (s, rest) => (.string s, rest)
    | '[' :: rest =>
      if depth = 0 then none
      else (items? (depth - 1) tries rest).map fun (items, rest) => (.array items, rest)
    | '{' :: rest =>
      if depth = 0 then none
      else (members? (depth - 1) tries [] rest).map fun (entries, rest) =>
        (.table .inline entries, rest)
    | _ =>
      let (w, rest) := word s
      (scalar? w).map fun item => (item, rest)

/-- The items of an array up to its closing bracket. -/
def items? (depth : Nat) : Nat → Text → Option (List Item × Text)
  | 0, _ => none
  | tries + 1, s =>
    match skipAll s with
    | ']' :: rest => some ([], rest)
    | s => do
      let (item, rest) ← value? depth tries s
      match skipAll rest with
      | ']' :: rest => some ([item], rest)
      | ',' :: rest => do
        let (items, rest) ← items? depth tries rest
        some (item :: items, rest)
      | _ => none

/-- The assignments of an inline table up to its closing brace, added to `entries`. -/
def members? (depth : Nat) : Nat → Entries → Text → Option (Entries × Text)
  | 0, _, _ => none
  | tries + 1, entries, s =>
    match skipAll s with
    | '}' :: rest => some (entries, rest)
    | s => do
      let (path, rest) ← key? s
      let rest ← Text.after? ['='] (skipAll rest)
      let (item, rest) ← value? depth tries (skipAll rest)
      let entries ← Entries.assign item path entries
      match skipAll rest with
      | '}' :: rest => some (entries, rest)
      | ',' :: rest => members? depth tries entries rest
      | _ => none

end

/-! ### Documents -/

/-- The statement at the start of a line that holds one, and what follows. -/
def statement? (s : Text) : Option (Statement × Text) :=
  match s with
  | '[' :: '[' :: rest => do
    let (path, rest) ← key? (skipSpace rest)
    let rest ← Text.after? [']', ']'] rest
    some (.element path, rest)
  | '[' :: rest => do
    let (path, rest) ← key? (skipSpace rest)
    let rest ← Text.after? [']'] rest
    some (.table path, rest)
  | _ => do
    let (path, rest) ← key? s
    let rest ← Text.after? ['='] rest
    let (item, rest) ← value? depthLimit (rest.length + 1) (skipSpace rest)
    some (.assign path item, rest)

/-- The statements of a text, at most one a line. -/
def statements? : Nat → Text → Option (List Statement)
  | 0, _ => some []
  | tries + 1, s =>
    match skipSpace s with
    | [] => some []
    | s =>
      match restOfLine? s with
      | some rest => statements? tries rest
      | none => do
        let (statement, rest) ← statement? s
        let rest ← restOfLine? rest
        let others ← statements? tries rest
        some (statement :: others)

end Read

/-- The entries of a text that is a TOML document. A byte order mark in front is left out. -/
def read? (s : Text) : Option Entries :=
  let s := match s with
    | '\uFEFF' :: rest => rest
    | _ => s
  Read.statements? s.length s >>= Document.ofStatements?

end Directives.Toml
