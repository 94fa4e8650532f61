import Directives.Program.Number.Integer

/-! Arithmetic expressions.

A text is read as an expression even if it is none: it then breaks off where reading
had to stop, so that what stands in front of that place is still worked out first. -/
namespace Directives.Program.Shell

/-- What is done with two numbers. -/
inductive Operation where
  | multiply | divide | remainder
  | add | subtract
  | shiftLeft | shiftRight
  | less | lessEqual | greater | greaterEqual
  | equal | notEqual
  | bitAnd
  | bitXor
  | bitOr
  deriving DecidableEq, Repr

/-- How an operation is written. -/
def Operation.written : Operation → Text
  | .multiply => "*"
  | .divide => "/"
  | .remainder => "%"
  | .add => "+"
  | .subtract => "-"
  | .shiftLeft => "<<"
  | .shiftRight => ">>"
  | .less => "<"
  | .lessEqual => "<="
  | .greater => ">"
  | .greaterEqual => ">="
  | .equal => "=="
  | .notEqual => "!="
  | .bitAnd => "&"
  | .bitXor => "^"
  | .bitOr => "|"

/-- The operations of each rank, those that bind closest first. -/
def Operation.ranks : List (List Operation) :=
  [[.multiply, .divide, .remainder], [.add, .subtract], [.shiftLeft, .shiftRight],
    [.less, .lessEqual, .greater, .greaterEqual], [.equal, .notEqual], [.bitAnd], [.bitXor],
    [.bitOr]]

/-- The operations that an assignment can go along with. -/
def Operation.assigning : List Operation :=
  [.multiply, .divide, .remainder, .add, .subtract, .shiftLeft, .shiftRight, .bitAnd, .bitXor,
    .bitOr]

/-- What is done with one number. -/
inductive Change where
  | negative
  | not
  | complement
  deriving DecidableEq, Repr

/-- What had to come where an expression breaks off. -/
inductive Missing where
  | primary
  | closing
  | colon
  | endOfText
  deriving DecidableEq, Repr

/-- What is said about it. -/
def Missing.message : Missing → Text
  | .primary => "expecting primary"
  | .closing => "expecting ')'"
  | .colon => "expecting ':'"
  | .endOfText => "expecting EOF"

/-- An expression. -/
inductive Expression where
  | number (n : Int64)
  | variable (name : Text)
  | changed (change : Change) (e : Expression)
  | operation (op : Operation) (a b : Expression)
  | both (a b : Expression)
  | either (a b : Expression)
  | choice (test a b : Expression)
  | assignment (name : Text) (op : Option Operation) (e : Expression)
  /-- Reading stopped here. -/
  | broken (missing : Missing)
  /-- Reading stopped behind an expression. -/
  | brokenBehind (e : Expression) (missing : Missing)
  deriving Repr, Inhabited

namespace Arithmetic

/-- The tokens of expressions. -/
inductive Token where
  | number (n : Int64)
  | name (s : Text)
  | operation (op : Operation)
  | assignment (op : Option Operation)
  | mark (s : Text)
  | unknown
  deriving DecidableEq, Repr

/-- The tokens that are made of other characters, the longest ones first. -/
def marks : List (Text × Token) :=
  let withEquals := Operation.assigning.map fun op => (op.written ++ ['='], .assignment (some op))
  let operations := Operation.ranks.flatten.map fun op => (op.written, .operation op)
  let others := ["&&", "||", "!", "~", "(", ")", "?", ":"].map fun s =>
    (s.toList, Token.mark s.toList)
  let all := withEquals ++ operations ++ others ++ [(['='], .assignment none)]
  [3, 2, 1].flatMap fun n => all.filter fun (written, _) => written.length = n

/-- The tokens of a text, in at most `tries` steps. -/
def tokensIn : Nat → Text → List Token
  | 0, _ => []
  | _, [] => []
  | tries + 1, c :: s =>
    if c = ' ' || c = '\t' || c = '\n' then tokensIn tries s
    else if Octets.isDigit c then
      let reading := Integer.signed (c :: s)
      .number (Int64.ofInt reading.value) :: tokensIn tries reading.rest
    else if Octets.isNameStart c then
      .name ((c :: s).takeWhile Octets.isNameChar) ::
        tokensIn tries ((c :: s).dropWhile Octets.isNameChar)
    else match marks.findSome? fun (written, token) =>
        (Text.after? written (c :: s)).map fun rest => (token, rest) with
      | some (token, rest) => token :: tokensIn tries rest
      | none => [.unknown]

/-- The tokens of a text. -/
def tokens (s : Text) : List Token :=
  tokensIn s.length s

/-- What is still to be read, and whether reading had to stop. -/
structure Rest where
  tokens : List Token
  isBroken : Bool := false

/-- An action that reads on. -/
abbrev Reader := StateM Rest

/-- Stop reading. -/
def stop : Reader Unit :=
  set (Rest.mk [] true)

/-- Pass a token if it is the next one. -/
def passIf (token : Token) : Reader Bool :=
  modifyGet fun rest =>
    match rest.tokens with
    | next :: tokens => if next = token then (true, { rest with tokens }) else (false, rest)
    | [] => (false, rest)

/-- Pass a token that has to come behind an expression. -/
def expect (token : Token) (missing : Missing) (e : Expression) : Reader Expression := do
  if (← get).isBroken || (← passIf token) then return e
  stop
  return .brokenBehind e missing

/-- The functions that read a part of an expression, one level further down. -/
structure Parts where
  whole : Reader Expression
  choice : Reader Expression

/-- The signs in front of an expression. -/
def signs : List (Token × Option Change) :=
  [(.operation .add, none), (.operation .subtract, some .negative), (.mark ['!'], some .not),
    (.mark ['~'], some .complement)]

/-- A number, a variable or an expression in parentheses, behind its signs. -/
def primary (parts : Parts) : Reader Expression := do
  let tokens := (← get).tokens
  let changes := (tokens.map fun token => signs.lookup token).takeWhile Option.isSome
  let changes := (changes.filterMap id).filterMap id
  let behind := tokens.dropWhile fun token => (signs.lookup token).isSome
  let e ← match behind with
    | .number n :: rest => do
      modify fun r => { r with tokens := rest }
      pure (.number n)
    | .name s :: rest => do
      modify fun r => { r with tokens := rest }
      pure (.variable s)
    | .mark ['('] :: rest => do
      modify fun r => { r with tokens := rest }
      expect (.mark [')']) .closing (← parts.whole)
    | _ => do
      stop
      pure (.broken .primary)
  return changes.foldr .changed e

/-- Expressions with something between them, which is passed as `next` says; in at most `tries`
steps. -/
def chain (next : Reader (Option α)) (part : Reader Expression) :
    Nat → Reader (List (α × Expression))
  | 0 => return []
  | tries + 1 => do
    match ← next with
    | some a =>
      let e ← part
      return (a, e) :: (← chain next part tries)
    | none => return []

/-- How many tokens are still to be read. -/
def bound : Reader Nat := do
  return (← get).tokens.length

/-- The operations of one rank carried out from the left. -/
def reduce (first : Expression) (rank : List Operation) :
    List (Operation × Expression) → Expression × List (Operation × Expression)
  | [] => (first, [])
  | (op, e) :: rest =>
    if rank.contains op then reduce (.operation op first e) rank rest
    else
      let (e, rest) := reduce e rank rest
      (first, (op, e) :: rest)

/-- Operations between primaries. -/
def operations (parts : Parts) : Reader Expression := do
  let first ← primary parts
  let next : Reader (Option Operation) := do
    match (← get).tokens with
    | .operation op :: tokens =>
      modify fun r => { r with tokens }
      return some op
    | _ => return none
  let others ← chain next (primary parts) (← bound)
  return (Operation.ranks.foldl (fun (e, rest) rank => reduce e rank rest) (first, others)).1

/-- Expressions with a mark between them, from the right. -/
def connected (mark : Token) (join : Expression → Expression → Expression)
    (part : Reader Expression) : Reader Expression := do
  let first ← part
  let next : Reader (Option Unit) := do
    return if ← passIf mark then some () else none
  let others ← chain next part (← bound)
  match (first :: others.map (·.2)).reverse with
  | last :: before => return before.foldl (fun e a => join a e) last
  | [] => return first

/-- A choice between two expressions, or one alone. -/
def choice (parts : Parts) : Reader Expression := do
  let conjunction := connected (.mark "&&".toList) .both (operations parts)
  let test ← connected (.mark "||".toList) .either conjunction
  if !(← passIf (.mark ['?'])) then return test
  let a ← expect (.mark [':']) .colon (← parts.whole)
  if (← get).isBroken then return .choice test a a
  return .choice test a (← parts.choice)

/-- An assignment, or what stands for itself. -/
def whole (parts : Parts) : Reader Expression := do
  match (← get).tokens with
  | .name s :: .assignment op :: tokens =>
    modify fun r => { r with tokens }
    return .assignment s op (← parts.whole)
  | _ => choice parts

/-- The functions that read down to a depth. -/
def parts : Nat → Parts
  | 0 => ⟨(do stop; return .broken .primary), (do stop; return .broken .primary)⟩
  | depth + 1 => ⟨fun rest => whole (parts depth) rest, fun rest => choice (parts depth) rest⟩

end Arithmetic

/-- The expression that a text writes. -/
def Expression.ofText (s : Text) : Expression :=
  let tokens := Arithmetic.tokens s
  let (e, rest) := ((Arithmetic.parts (tokens.length + 1)).whole).run ⟨tokens, false⟩
  if rest.isBroken || rest.tokens.isEmpty then e else .brokenBehind e .endOfText

namespace Operation

/-- A condition as a number. -/
def truth (b : Bool) : Int64 :=
  if b then 1 else 0

/-- What an operation makes of two numbers; nothing from a division by zero. -/
def result? (op : Operation) (a b : Int64) : Option Int64 :=
  match op with
  | .multiply => some (a * b)
  | .divide => if b = 0 then none else some (a / b)
  | .remainder => if b = 0 then none else some (a % b)
  | .add => some (a + b)
  | .subtract => some (a - b)
  | .shiftLeft => some (a <<< b)
  | .shiftRight => some (a >>> b)
  | .less => some (truth (a < b))
  | .lessEqual => some (truth (a ≤ b))
  | .greater => some (truth (b < a))
  | .greaterEqual => some (truth (b ≤ a))
  | .equal => some (truth (a = b))
  | .notEqual => some (truth (a ≠ b))
  | .bitAnd => some (a &&& b)
  | .bitXor => some (a ^^^ b)
  | .bitOr => some (a ||| b)

end Operation

/-- What becomes of a number. -/
def Change.apply : Change → Int64 → Int64
  | .negative, n => -n
  | .not, n => Operation.truth (n = 0)
  | .complement, n => ~~~n

end Directives.Program.Shell
