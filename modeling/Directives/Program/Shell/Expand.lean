import Directives.Program.Shell.Action
import Directives.Program.Shell.Arithmetic
import Directives.Program.Shell.Fields
import Directives.Program.Shell.Paths

/-! What words stand for.

The pieces of a word are carried out from left to right. What is inside of a piece is
expanded by the functions one level further down, which are passed along as `Inner`. -/
namespace Directives.Program.Shell
open Run

/-- What is done with a word. -/
structure Setting where
  /-- It is cut into fields. -/
  splits : Bool := false
  /-- It stands inside of an expansion. -/
  isInner : Bool := false
  /-- It begins where a tilde stands for a home. -/
  tilde : Bool := true
  /-- It is an assignment, where a tilde can also stand behind the sign and behind colons. -/
  assigns : Bool := false

/-- The functions that carry out what is inside of a piece. -/
structure Inner where
  word : Setting → Word → Run (List Item)
  /-- What commands write. -/
  written : Option Tree → Run Text

/-- The homes that are known by name. -/
def homes : List (Text × Text) :=
  [("root", "/root"), ("daemon", "/usr/sbin"), ("bin", "/bin"), ("sys", "/dev"),
    ("sync", "/bin"), ("games", "/usr/games"), ("man", "/var/cache/man"),
    ("lp", "/var/spool/lpd"), ("mail", "/var/mail"), ("news", "/var/spool/news"),
    ("uucp", "/var/spool/uucp"), ("proxy", "/bin"), ("www-data", "/var/www"),
    ("backup", "/var/backups"), ("list", "/var/list"), ("irc", "/run/ircd"),
    ("nobody", "/nonexistent")]

/-- The directory that a name behind a tilde stands for. -/
def homeOf? (home : Option Text) (name : Text) : Option Text :=
  if name.isEmpty then home else homes.lookup name

/-- The name behind a tilde and what follows it, if nothing in the name is more than a plain
character. -/
def nameBehindTilde? (assigns : Bool) : Word → Option (Text × Word)
  | [] => some ([], [])
  | .char c false :: rest =>
    if c = '/' || (assigns && c = ':') then some ([], .char c false :: rest)
    else (nameBehindTilde? assigns rest).map fun (name, behind) => (c :: name, behind)
  | .char _ true :: _ | .mark :: _ => none
  | _ :: _ => none

/-- A word whose tilde is replaced, if there is one at the start. -/
def withHome (home : Option Text) (assigns : Bool) (w : Word) : Word :=
  match w with
  | .char '~' false :: rest =>
    match nameBehindTilde? assigns rest with
    | some (name, behind) =>
      match homeOf? home name with
      | some directory => directory.map (Piece.char · true) ++ behind
      | none => w
    | none => w
  | _ => w

/-- An assignment whose tildes are replaced; `begun` says whether the sign was passed. -/
def withHomes (home : Option Text) (begun : Bool) : Word → Word
  | [] => []
  | .char c false :: rest =>
    let rest' := withHomes home (begun || c = '=') rest
    if c = ':' || (c = '=' && !begun) then .char c false :: withHome home true rest'
    else .char c false :: rest'
  | piece :: rest => piece :: withHomes home begun rest

/-- What a parameter holds: nothing, a text, or all parameters, each one for itself or not. -/
inductive Holding where
  | none
  | single (s : Text)
  | all (each : Bool)
  deriving DecidableEq, Repr

/-- The letters of the options in the order that they are listed in. -/
def optionLetters : Text := "ubaCEVvxsnmiIfe"

/-- The number of the process that is the shell. -/
def ownNumber : Nat := 4242

/-- What a parameter of a name holds. -/
def parameter (s : Session) (name : Text) : Holding :=
  let optional : Option Text → Holding
    | some s => .single s
    | Option.none => .none
  match name with
  | ['@'] => .all true
  | ['*'] => .all false
  | ['$'] => .single (Text.ofNat ownNumber)
  | ['?'] => .single (Text.ofNat s.status)
  | ['#'] => .single (Text.ofNat s.parameters.length)
  | ['!'] => optional (s.background.map Text.ofNat)
  | ['-'] => .single (optionLetters.filter s.flags.contains)
  | _ =>
    if name.all Octets.isDigit then
      let n := Octets.number 10 name
      if n = 0 then .single s.name else optional s.parameters[n - 1]?
    else optional (s.value? name)

/-- The parameters of the shell in one text. -/
def joinedParameters (s : Session) : Text :=
  Text.joined (s.separators.take 1) s.parameters

/-- A value as an item. -/
def itemOf (value : Text) (quoted : Bool) : List Item :=
  if quoted then [.chars value true] else [.region value false]

/-- The items that a parameter stands for; nothing if it has no value. -/
def items? (s : Session) (setting : Setting) (quoted : Bool) (p : Holding) :
    Option (List Item) :=
  match p with
  | .none => none
  | .single value => some (itemOf value quoted)
  | .all each =>
    if !setting.splits || (quoted && !each) then some (itemOf (joinedParameters s) quoted)
    else if quoted then
      if s.parameters.isEmpty then some []
      else some [.region (Text.joined ['\x00'] s.parameters) true]
    else some [.region (Text.joined ['\x00'] s.parameters) false]

/-- Whether a parameter has no value, or the empty one where that counts too. -/
def isMissing (items : Option (List Item)) (emptyCounts : Bool) : Bool :=
  match items with
  | none => true
  | some items => emptyCounts && (textOf items).isEmpty

/-- End because a parameter has no value. -/
def notSet (name : Text) : Run α := do
  fail (name ++ ": parameter not set")

namespace Expression

/-- The integer that a variable holds. -/
def variableValue (name : Text) : Run Int64 := do
  let s := ((← value? name)).getD []
  let reading := Integer.signed s
  if reading.outOfRange || !(skipSpace reading.rest).isEmpty then fail ("Illegal number: " ++ s)
  return Int64.ofInt reading.value

/-- End because an expression is wrong. -/
def wrong (text message : Text) : Run α := do
  fail ("arithmetic expression: " ++ message ++ ": \"" ++ text ++ ['"'])

/-- What an operation makes of two numbers. Divided by minus one, the least number is a signal. -/
def applied (text : Text) (op : Operation) (a b : Int64) : Run Int64 := do
  if (op = .divide || op = .remainder) && b = -1 && a = Int64.minValue then throw (.killed 8)
  match op.result? a b with
  | some n => return n
  | none => wrong text "division by zero"

/-- The value of an expression. Where it is not `live`, nothing is done but look for faults. -/
def evaluate (text : Text) (live : Bool) : Expression → Run Int64
  | .number n => return n
  | .variable name => do if live then variableValue name else return 0
  | .changed change e => do return change.apply (← evaluate text live e)
  | .operation op a b => do
    let a ← evaluate text live a
    let b ← evaluate text live b
    if live then applied text op a b else return b
  | .both a b => do
    let a ← evaluate text live a
    let b ← evaluate text (live && a ≠ 0) b
    return Operation.truth (a ≠ 0 && b ≠ 0)
  | .either a b => do
    let a ← evaluate text live a
    let b ← evaluate text (live && a = 0) b
    return Operation.truth (a ≠ 0 || b ≠ 0)
  | .choice test a b => do
    let test ← evaluate text live test
    let a ← evaluate text (live && test ≠ 0) a
    let b ← evaluate text (live && test = 0) b
    return if test ≠ 0 then a else b
  | .assignment name op e => do
    let n ← evaluate text live e
    if !live then return n
    let n ← match op with
      | some op => do applied text op (← variableValue name) n
      | none => pure n
    setVariable name (toString n.toInt).toList
    return n
  | .broken missing => wrong text missing.message
  | .brokenBehind e missing => do
    discard (evaluate text live e)
    wrong text missing.message

end Expression

/-- The text of a word in its own right. -/
def Inner.text (inner : Inner) (setting : Setting) (w : Word) : Run Text := do
  return textOf (← inner.word setting w)

/-- Put a value into the parameter of a name. -/
def assign (name value : Text) : Run Unit := do
  if isName name then setVariable name value
  else fail (name ++ ": bad variable name")

/-- The items of a parameter that is used in a way. -/
def expandParameter (inner : Inner) (setting : Setting) (name : Text) (use : Use)
    (emptyCounts : Bool) (word : Word) (quoted : Bool) : Run (List Item) := do
  let s ← session
  if use = .unknown then fail "Bad substitution"
  let items := items? s setting quoted (parameter s name)
  let missing := isMissing items emptyCounts
  let inside : Setting := { setting with isInner := !quoted, tilde := true }
  let held : Run (List Item) := do
    match items with
    | some items => return items
    | none => if s.has 'u' then notSet name else return []
  match use with
  | .plain | .unknown =>
    if word.isEmpty then held else return (← held) ++ (← inner.word inside word)
  | .length => return itemOf (Text.ofNat (textOf (← held)).length) quoted
  | .otherwise => if missing then inner.word inside word else held
  | .alternative => if missing then return [] else inner.word inside word
  | .assign =>
    if !missing then held
    else
      let value ← inner.text {} word
      assign name value
      let s ← session
      return (items? s setting quoted (parameter s name)).getD []
  | .require =>
    if !missing then held
    else if word.isEmpty then
      fail (name ++ ": parameter not set" ++ (if emptyCounts then " or null".toList else []))
    else
      let message ← inner.text {} word
      fail (name ++ ": " ++ message)
  | .dropStart longest => cut (← held) (Pattern.dropStart · longest)
  | .dropEnd longest => cut (← held) (Pattern.dropEnd · longest)
where
  /-- The items without what a pattern takes from their text. -/
  cut (items : List Item) (take : Pattern → Text → Text) : Run (List Item) := do
    if items.isEmpty then return []
    let value := take (globOf (← inner.word {} word)).pattern (textOf items)
    match items with
    | [.region _ whole] => return [.region value whole]
    | _ => return itemOf value quoted

/-- The items of a piece. -/
def expandPiece (inner : Inner) (setting : Setting) : Piece → Run (List Item)
  | .char c quoted => return [.chars [c] quoted]
  | .mark => return [.mark]
  | .parameter name use emptyCounts word quoted =>
    expandParameter inner setting name use emptyCounts word quoted
  | .command body quoted => do
    let text := (← inner.written body).filter (· ≠ '\x00')
    return itemOf (text.reverse.dropWhile (· = '\n')).reverse quoted
  | .arithmetic expression quoted => do
    let text ← inner.text { tilde := false } expression
    let n ← (Expression.ofText text).evaluate text true
    return itemOf (toString n.toInt).toList quoted

/-- A word up to a parameter with a lone colon, which nothing is expanded behind. -/
def upToLoneColon : Word → Word
  | [] => []
  | .parameter name .plain true word quoted :: _ => [.parameter name .plain true word quoted]
  | piece :: rest => piece :: upToLoneColon rest

/-- The items of a word. -/
def expandWord (inner : Inner) (setting : Setting) (w : Word) : Run (List Item) := do
  let home ← value? "HOME"
  let w := if setting.assigns then withHomes home false w else w
  let w := if setting.tilde then withHome home setting.assigns w else w
  let items ← (upToLoneColon w).mapM (expandPiece inner setting)
  return if setting.isInner then Item.opened items.flatten else items.flatten

/-- The fields of a word, and the paths that those stand for which are patterns. -/
def expandFields (inner : Inner) (w : Word) : Run (List Text) := do
  let items ← inner.word { splits := true } w
  let s ← session
  let fields := fieldsOf s.separators none items
  if s.has 'f' then return fields.map Glob.text
  let tree := (← get).system.tree
  return fields.flatMap fun field =>
    match pathsOf tree s.directory field with
    | [] => [field.text]
    | paths => paths

/-- The text of a word that is an assignment. -/
def expandAssignment (inner : Inner) (w : Word) : Run Text :=
  inner.text { tilde := false, assigns := true } w

end Directives.Program.Shell
