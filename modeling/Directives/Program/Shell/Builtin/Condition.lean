import Directives.Program.Shell.Builtin.Basic

/-! `test`: conditions on texts, numbers and files.

What an argument means depends on the ones behind it: an operator that is followed by
nothing, or by an operator between two operands, is an operand itself. -/
namespace Directives.Program.Shell.Builtin
open Run

/-- What a condition can be made of. -/
inductive Part where
  | operand
  | ends
  | unary
  | binary
  | not
  | both
  | either
  | opening
  | closing
  deriving DecidableEq, Repr

/-- The operators with one operand. -/
def unaryOperators : List Text :=
  ["-r", "-w", "-x", "-e", "-f", "-d", "-c", "-b", "-p", "-u", "-g", "-k", "-s", "-t", "-z",
    "-n", "-h", "-O", "-G", "-L", "-S"]

/-- The operators between two operands. -/
def binaryOperators : List Text :=
  ["=", "!=", "<", ">", "-eq", "-ne", "-ge", "-gt", "-le", "-lt", "-nt", "-ot", "-ef"]

/-- What an argument is by itself. -/
def partOf (arg : Text) : Part :=
  if unaryOperators.contains arg then .unary
  else if binaryOperators.contains arg then .binary
  else if arg = ['!'] then .not
  else if arg = ['-', 'a'] then .both
  else if arg = ['-', 'o'] then .either
  else if arg = ['('] then .opening
  else if arg = [')'] then .closing
  else .operand

/-- What the first of the arguments is. -/
def partHere : List Text → Part
  | [] => .ends
  | [arg] =>
    match partOf arg with
    | .unary | .opening => .operand
    | part => part
  | arg :: next :: rest =>
    match partOf arg with
    | .unary => if !rest.isEmpty && partOf next = .binary then .operand else .unary
    | part => part

/-- An integer. -/
def integer (s : Text) : Run Int := do
  let (negative, behind) := signOf (skipSpace s)
  let (digits, rest) := Octets.digits 10 behind.length behind
  let n : Int := Octets.number 10 digits
  let n := if negative then -n else n
  if digits.isEmpty || !(skipSpace rest).isEmpty || n < Integer.least || Integer.greatest < n then
    fail ("Illegal number: " ++ s)
  return n

/-- Whether something holds of what a path leads to. -/
def holds (operator : Char) (path : Text) : Run Bool := do
  let s ← session
  match (← get).system.tree.resolve s.directory (Octets.toText path) with
  | .error _ => return false
  | .ok place =>
    return match operator, place with
      | 'f', .file _ | 'f', .program _ => true
      | 'f', _ => false
      | 'd', .directory => true
      | 'd', _ => false
      | 'c', .device _ => true
      | 'c', _ => false
      | 's', .file contents => !contents.isEmpty
      | 's', .device _ => false
      | 's', _ => true
      | 'x', .file _ | 'x', .device _ => false
      | 'x', _ => true
      | operator, _ => "rweOG".toList.contains operator

/-- Whether an operator with one operand is met. -/
def isMetBy (operator operand : Text) : Run Bool := do
  match operator with
  | ['-', 'z'] => return operand.isEmpty
  | ['-', 'n'] => return !operand.isEmpty
  | ['-', 't'] =>
    discard (integer operand)
    return false
  | ['-', c] => holds c operand
  | _ => return false

/-- Whether an operator between two operands is met. -/
def isMetBetween (operator a b : Text) : Run Bool := do
  let compare (p : Int → Int → Bool) : Run Bool := do
    let m ← integer a
    let n ← integer b
    return p m n
  match String.ofList operator with
  | "=" => return a = b
  | "!=" => return a ≠ b
  | "<" => return Text.le a b && a ≠ b
  | ">" => return Text.le b a && a ≠ b
  | "-eq" => compare fun m n => m = n
  | "-ne" => compare fun m n => m ≠ n
  | "-ge" => compare fun m n => m ≥ n
  | "-gt" => compare fun m n => m > n
  | "-le" => compare fun m n => m ≤ n
  | "-lt" => compare fun m n => m < n
  | "-ef" =>
    let s ← session
    let tree := (← get).system.tree
    let find (s' : Text) := (tree.locate s.directory (Octets.toText s')).toOption
    return (find a).isSome && find a = find b
  | _ => return false

/-- The value of a condition, and the arguments left, the last one used in front. -/
abbrev Condition := Part → List Text → Run (Bool × List Text)

/-- End because of how a condition is written. -/
def misread (arg : Option Text) (message : Text) : Run α := do
  match arg with
  | some (c :: cs) => fail (c :: cs ++ ": " ++ message)
  | _ => fail message

/-- An operand, an operator with what belongs to it, or a condition in parentheses, which
`inside` reads. -/
def primary (inside : Condition) : Condition := fun part args => do
  match part, args with
  | .ends, _ => return (false, args)
  | .opening, _ :: args =>
    if partHere args = .closing then return (false, args)
    let (value, args) ← inside (partHere args) args
    if partHere args.tail ≠ .closing then misread none "closing paren expected"
    return (value, args.tail)
  | .unary, operator :: args =>
    match args with
    | [] => misread (some operator) "argument expected"
    | operand :: _ => return (← isMetBy operator operand, args)
  | _, a :: rest =>
    if partHere rest = .binary then
      match rest with
      | operator :: b :: behind => return (← isMetBetween operator a b, b :: behind)
      | operator :: [] => misread (some operator) "argument expected"
      | [] => return (!a.isEmpty, args)
    else return (!a.isEmpty, args)
  | _, [] => return (false, [])

/-- A primary, or the opposite of one; in at most `tries` steps. -/
def negated (inside : Condition) : Nat → Condition
  | 0 => fun _ args => return (false, args)
  | tries + 1 => fun part args => do
    if part ≠ .not then primary inside part args
    else
      let next := partHere args.tail
      let (value, args) ←
        negated inside tries next (if next = .ends then args else args.tail)
      return (!value, args)

/-- Conditions with a connective between them; in at most `tries` steps. -/
def connected (connective : Part) (join : Bool → Bool → Bool) (condition : Condition) :
    Nat → Condition
  | 0 => fun _ args => return (false, args)
  | tries + 1 => fun part args => do
    let (value, args) ← condition part args
    if partHere args.tail ≠ connective then return (value, args)
    let args := args.tail.tail
    let (other, args) ← connected connective join condition tries (partHere args) args
    return (join value other, args)

/-- A whole condition, in which parentheses go down to a depth. -/
def condition : Nat → Condition
  | 0 => fun _ args => return (false, args)
  | depth + 1 => fun part args =>
    let inside : Condition := fun part args => condition depth part args
    let tries := args.length + 1
    connected .either or (connected .both and (negated inside tries) tries) tries part args

/-- Whether arguments are a condition that is met. -/
def isMet (args : List Text) : Run Bool := do
  let (part, args, opposite) := shape args.length args
  if args.isEmpty then return opposite
  let (value, left) ← condition (args.length + 1) (part.getD (partHere args)) args
  match left with
  | extra :: _ :: _ => misread (some extra) "unexpected operator"
  | _ => return value != opposite
where
  /-- What three or four arguments are at first sight, and whether the opposite is asked for. -/
  shape : Nat → List Text → Option Part × List Text × Bool
    | 0, args => (none, args, false)
    | tries + 1, args =>
      match args with
      | [_, operator, _] =>
        if partOf operator = .binary then (some .operand, args, false) else outer tries args
      | [_, _, _, _] => outer tries args
      | _ => (none, args, false)
  /-- Parentheses around all arguments, or the opposite of what follows. -/
  outer (tries : Nat) (args : List Text) : Option Part × List Text × Bool :=
    if args.head? = some ['('] && args.getLast? = some [')'] then
      (none, args.tail.dropLast, false)
    else if args.head? = some ['!'] then
      let (part, args, opposite) := shape tries args.tail
      (part, args, !opposite)
    else (none, args, false)

/-- The builtin `test`. -/
def test (args : List Text) : Run Nat := do
  return if ← isMet args then 0 else 1

/-- The builtin `[`, whose last argument is a closing bracket. -/
def bracket (args : List Text) : Run Nat := do
  if args.getLast? ≠ some [']'] then fail "missing ]"
  test args.dropLast

end Directives.Program.Shell.Builtin
