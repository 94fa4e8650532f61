import Directives.Program.Basic
import Directives.Program.Options
import Directives.Program.Transliterate.Set

/-! `tr`: bytes replaced, deleted or squeezed.

The bytes of the first set go to those of the second in order; where the first is the
longer one, the last byte of the second is repeated. Classes of upper-case and
lower-case letters stand for the change of case. -/
namespace Directives.Program.Transliterate

/-- The options. -/
def options : Options where
  letters := "AcCdst"
  words := [("complement", 'c'), ("delete", 'd'), ("squeeze-repeats", 's'),
    ("truncate-set1", 't'), ("help", 'h'), ("version", 'V')]
  mixed := false

/-- What is to be done. -/
structure Task where
  delete : Bool
  squeezes : Bool
  complements : Bool
  truncates : Bool

/-- What the letters of the options ask for. -/
def Task.ofLetters (letters : Text) : Task where
  delete := letters.contains 'd'
  squeezes := letters.contains 's'
  complements := letters.any "cC".toList.contains
  truncates := letters.contains 't'

/-- Whether bytes are replaced. -/
def Task.translates (task : Task) (second : Option α) : Bool :=
  second.isSome && !task.delete

/-- What is wrong with the number of sets, and what else there is to say about it. -/
def Task.misfit? (task : Task) (sets : List Text) : Option (Text × Text) :=
  let least := if task.delete == task.squeezes then 2 else 1
  let most := if task.delete && !task.squeezes then 1 else 2
  if sets.length < least then
    match sets.getLast? with
    | none => some ("missing operand", [])
    | some last =>
      some ("missing operand after " ++ quote last,
        if task.squeezes then
          "Two strings must be given when both deleting and squeezing repeats.\n"
        else "Two strings must be given when translating.\n")
  else match sets[most]? with
    | none => none
    | some extra =>
      some ("extra operand " ++ quote extra,
        if sets.length = 2 then
          "Only one string may be given when deleting without squeezing repeats.\n".toList
        else [])

/-- How many bytes a set has. -/
def size (set : List Element) : Nat :=
  (set.map Element.size).foldl (· + ·) 0

/-- How often a byte is repeated as often as needed. -/
def fills (set : List Element) : Nat :=
  set.countP fun e => match e with
    | .repeated _ 0 => true
    | _ => false

/-- Whether a set has a class of a kind. -/
def hasClass (kind : CharClass → Bool) (set : List Element) : Bool :=
  set.any fun e => match e with
    | .named k => kind k
    | _ => false

/-- Whether a set has an equivalent. -/
def hasEquivalent (set : List Element) : Bool :=
  set.any fun e => match e with
    | .equivalent _ => true
    | _ => false

/-- Fill the place that is as long as needed. -/
def fill (count : Nat) (set : List Element) : List Element :=
  set.map fun e => match e with
    | .repeated c 0 => .repeated c count
    | e => e

/-- How many pairs of classes of letters stand for the change of case, and nothing where a
class of the second set has no partner; in at most `tries` steps. -/
def casePairs? : Nat → List Slot → List Slot → Option Nat
  | tries + 1, first, b :: second =>
    match b.case? with
    | none =>
      match first with
      | [] => some 0
      | _ :: first => casePairs? tries first second
    | some _ =>
      match first with
      | a :: _ =>
        if a.isFirst && a.case?.isSome then
          (· + 1) <$> casePairs? tries (afterElement first) (afterElement (b :: second))
        else none
      | [] => none
  | _, _, _ => some 0

/-- The last byte of a set again and again, as far as the other set goes. -/
def lengthen (by_ : Nat) (set : List Element) : Except Fault (List Element) :=
  match set.getLast? with
  | some (.byte c) | some (.range _ c) | some (.repeated c _) | some (.equivalent c) =>
    .ok (set ++ [.repeated c by_])
  | some (.named _) => .error .classAtEnd
  | none => .ok set

/-- The second set made ready to translate the first one, which has `length` bytes. -/
def Task.target (task : Task) (first second : List Element) (length : Nat) :
    Except Fault (List Element) := do
  if hasEquivalent second then
    throw .equivalentInSecond
  if hasClass (!isCase ·) second then
    throw .classInSecond
  let (a, b) := (slots first, slots second)
  let pairs ←
    if task.complements || !hasClass (fun _ => true) second then pure 0
    else match casePairs? (a.length + b.length + 1) a b with
      | some pairs => pure pairs
      | none => throw .misaligned
  let saved := pairs * ((allBytes.filter CharClass.upper.has).length - 1)
  let (length, given) := (length - saved, size second - saved)
  let second ←
    if given < length && !task.truncates then
      if given = 0 then throw .emptySecond
      else lengthen (length - given) second
    else pure second
  let given := if task.truncates then given else max given length
  let isOneByte := match (slots second).map (·.byte) with
    | [] => false
    | c :: cs => cs.all (· = c)
  if task.complements && hasClass (fun _ => true) first && !(given = length && isOneByte) then
    throw .severalTargets
  return second

/-- Both sets, if they go together. -/
def Task.agree (task : Task) (first : List Element) (second : Option (List Element)) :
    Except Fault (List Element × Option (List Element)) := do
  if most < size first then throw .tooLarge
  if 0 < fills first then throw .fillInFirst
  let length := if task.complements then 256 - (members first).length else size first
  match second with
  | none => return (first, none)
  | some second =>
    if most < size second then throw .tooLarge
    let filled :=
      if fills second = 1 && size second ≤ length then fill (length - size second) second
      else second
    if 1 < fills second then throw .fillsInSecond
    if task.delete then
      if 0 < fills second then
        throw .fillWithoutTranslation
      return (first, some second)
    else return (first, some (← task.target first filled length))

/-- What each byte becomes. -/
abbrev Table := Array Char

/-- Every byte as it is. -/
def Table.same : Table :=
  allBytes.toArray

/-- One byte becomes another. -/
def Table.put (t : Table) (source target : Char) : Table :=
  t.setIfInBounds source.toNat target

/-- What a byte becomes. -/
def Table.get (t : Table) (c : Char) : Char :=
  t.getD c.toNat c

/-- The letters of one case become those of the other. -/
def Table.changeCase (t : Table) (source target : CharClass) : Table :=
  if source = target then t
  else ((allBytes.filter source.has).zip (allBytes.filter target.has)).foldl
    (fun t (a, b) => t.put a b) t

/-- The bytes of one set become those of another, in at most `tries` steps. -/
def pairUp : Nat → List Slot → List Slot → Table → Table
  | tries + 1, a :: first, b :: second, t =>
    match a.case?, b.case? with
    | some source, some target =>
      pairUp tries (afterElement (a :: first)) (afterElement (b :: second))
        (t.changeCase source target)
    | _, _ => pairUp tries first second (t.put a.byte b.byte)
  | _, _, _, t => t

/-- What becomes of each byte. -/
def Task.table (task : Task) (first second : List Element) : Table :=
  if task.complements then
    let inside := members first
    ((allBytes.filter fun c => !inside.contains c).zip ((slots second).map (·.byte))).foldl
      (fun t (a, b) => t.put a b) Table.same
  else
    let (a, b) := (slots first, slots second)
    pairUp (a.length + b.length) a b Table.same

/-- Runs of one byte of the set, each made one byte. -/
def squeeze (inside : Char → Bool) : Text → Text
  | [] => []
  | [c] => [c]
  | c :: d :: rest =>
    if c = d && inside c then squeeze inside (d :: rest) else c :: squeeze inside (d :: rest)

/-- Whether a byte is in a set, answered from a table. -/
def isIn (set : List Element) (complemented : Bool) : Char → Bool :=
  let inside := members set
  let table := (allBytes.map fun c => inside.contains c != complemented).toArray
  fun c => table.getD c.toNat false

/-- The output for sets that go together. -/
def Task.output (task : Task) (first : List Element) (second : Option (List Element))
    (input : Text) : Text :=
  match second, task.delete with
  | none, false => squeeze (isIn first task.complements) input
  | none, true =>
    let inside := isIn first task.complements
    input.filter fun c => !inside c
  | some second, true =>
    let inside := isIn first task.complements
    squeeze (isIn second false) (input.filter fun c => !inside c)
  | some second, false =>
    let table := task.table first second
    let changed := input.map table.get
    if task.squeezes then squeeze (isIn second false) changed else changed

/-- Read a set, with warnings on the way. -/
def readSet (p : Process) (written : Text) : Sys (Except Fault (List Element)) := do
  let (letters, warnings) := unescape written
  for warning in warnings do p.complain warning
  return elements letters.length letters

/-- Read the second set, if there is one. -/
def readSecond (p : Process) :
    Option Text → Sys (Except Fault (Option (List Element)))
  | none => return .ok none
  | some written => return (← readSet p written).map some

end Transliterate

open Transliterate in
/-- The program. -/
def tr : Behaviour := fun p => do
  let refuse (message : Text) : Sys Ending := do
    p.complain message
    return .exit 1
  match options.read p.args with
  | .error fault => p.misused fault.message
  | .ok parsed =>
    if parsed.letters.any "hV".toList.contains then return .exit 0
    let task := Task.ofLetters parsed.letters
    match task.misfit? parsed.operands with
    | some (misfit, more) =>
      p.complain misfit
      let help := "Try '" ++ p.name ++ " --help' for more information.\n"
      discard (p.write Process.errorOutput (more ++ help))
      return .exit 1
    | none =>
      match ← readSet p (parsed.operands.headD []) with
      | .error fault => refuse fault.message
      | .ok first =>
        let second ← readSecond p parsed.operands[1]?
        match second >>= task.agree first with
        | .error fault => refuse fault.message
        | .ok (first, second) =>
          match ← p.readAll 0 with
          | .error reason => refuse ("read error: " ++ reason.reason)
          | .ok input => p.finish 0 (task.output first second input)

end Directives.Program
