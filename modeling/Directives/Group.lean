import Directives.Directive

/-! The directives of a text by command.

A group keeps the directives in their order and, for each command, the directives
that call it. Where they are several, each also has an alias such as `foo.$1`. -/
namespace Directives

/-- The directives of one command, in their order. -/
inductive Entry (σ : Type) where
  | single (directive : Directive σ)
  | many (first second : Directive σ) (rest : List (Directive σ))

namespace Entry

variable {σ : Type}

/-- The directives of an entry, in their order. -/
def toList : Entry σ → List (Directive σ)
  | .single d => [d]
  | .many first second rest => first :: second :: rest

/-- The first directive of an entry. -/
def first : Entry σ → Directive σ
  | .single d => d
  | .many d _ _ => d

/-- How many directives an entry has. -/
def size (e : Entry σ) : Nat :=
  e.toList.length

/-- The directive at an index of an entry. -/
def get? (e : Entry σ) (index : Nat) : Option (Directive σ) :=
  e.toList[index]?

/-- The only directive, if there is only one. -/
def single? : Entry σ → Option (Directive σ)
  | .single d => some d
  | .many .. => none

/-- The directives, if there are several. -/
def many? : Entry σ → Option (List (Directive σ))
  | .single _ => none
  | .many first second rest => some (first :: second :: rest)

/-- One more directive behind the others. -/
def push : Entry σ → Directive σ → Entry σ
  | .single first, d => .many first d []
  | .many first second rest, d => .many first second (rest ++ [d])

@[simp] theorem toList_push (e : Entry σ) (d : Directive σ) :
    (e.push d).toList = e.toList ++ [d] := by
  cases e <;> simp [push, toList]

end Entry

/-- Directives in their order, and by command in the order in which the commands first
occur. -/
structure Group (σ : Type) where
  directives : List (Directive σ) := []
  entries : List (Text × Entry σ) := []

namespace Group

variable {σ : Type}

/-- The entries with one more directive. -/
def insert (d : Directive σ) : List (Text × Entry σ) → List (Text × Entry σ)
  | [] => [(d.command, .single d)]
  | (name, entry) :: entries =>
    if name = d.command then (name, entry.push d) :: entries
    else (name, entry) :: insert d entries

/-- The directives by command. -/
def ofList (directives : List (Directive σ)) : Group σ where
  directives := directives
  entries := directives.foldl (fun entries d => insert d entries) []

/-- The commands in the order in which they first occur. -/
def names (g : Group σ) : List Text :=
  g.entries.map (·.1)

/-- The directives of a command. -/
def get? (g : Group σ) (name : Text) : Option (Entry σ) :=
  g.entries.lookup name

/-- How many directives a group has. -/
def size (g : Group σ) : Nat :=
  g.directives.length

/-- Whether a group has no directive. -/
def isEmpty (g : Group σ) : Bool :=
  g.directives.isEmpty

/-! ### Aliases -/

/-- What stands between a name and an index. -/
def aliasMark : Text := ['.', '$']

/-- The alias of occurrence `index` of a name. -/
def aliasOf (name : Text) (index : Nat) : Text :=
  name ++ aliasMark ++ Text.ofNat index

/-- The text before the last alias mark and behind it. -/
def splitAlias? : Text → Option (Text × Text)
  | [] => none
  | c :: cs =>
    match splitAlias? cs with
    | some (name, index) => some (c :: name, index)
    | none => (Text.after? aliasMark (c :: cs)).map fun index => ([], index)

/-- The index that a text of digits names, a `+` in front allowed, if it is below `2 ^ 64`. -/
def index? (s : Text) : Option Nat :=
  let digits := match s with
    | '+' :: rest => rest
    | _ => s
  if digits.isEmpty || !digits.all Char.isDigit then none
  else
    let n := Decimal.natOf digits
    if n < Nat.pow 2 64 then some n else none

/-- The directive of an alias; only commands that occur several times have aliases. -/
def getAlias? (g : Group σ) (key : Text) : Option (Directive σ) := do
  let (name, index) ← splitAlias? key
  let index ← index? index
  let entry ← g.get? name
  let directives ← entry.many?
  directives[index]?

/-- The aliases of all commands that occur several times. -/
def aliases (g : Group σ) : List Text :=
  g.entries.flatMap fun (name, entry) =>
    match entry.many? with
    | some directives => (List.range directives.length).map (aliasOf name)
    | none => []

/-- Equal groups. -/
def same (a b : Group σ) : Bool :=
  go a.directives b.directives
where
  go : List (Directive σ) → List (Directive σ) → Bool
    | [], [] => true
    | d :: ds, e :: es => d.same e && go ds es
    | _, _ => false

end Group
end Directives
