import Directives.Program.Shell.Pattern

/-! Fields: what a word is cut into behind its expansions.

Only what an expansion put into a word is cut, at separators. White space separates
however much of it there is; another separator also ends an empty field. Parameters that
are taken one by one are kept apart by the zero byte, which no other text has. -/
namespace Directives.Program.Shell

/-- A piece of a word behind its expansions. -/
inductive Item where
  | chars (s : Text) (quoted : Bool)
  /-- Quotes, even around nothing. -/
  | mark
  /-- What can be cut; with `whole` only at zero bytes, the rest being quoted. -/
  | region (s : Text) (whole : Bool)
  deriving DecidableEq, Repr

namespace Item

/-- The characters of an item. -/
def glob : Item → Glob
  | .chars s quoted => s.map fun c => (c, quoted)
  | .mark => []
  | .region s whole => s.map fun c => (c, whole)

/-- Neighbouring characters without quotes as one item. -/
def merged : List Item → List Item
  | .chars s false :: rest =>
    match merged rest with
    | .chars t false :: rest => .chars (s ++ t) false :: rest
    | rest => .chars s false :: rest
  | item :: rest => item :: merged rest
  | [] => []

/-- Items in which characters without quotes can be cut as well. -/
def opened (items : List Item) : List Item :=
  (merged items).map fun
    | .chars s false => .region s false
    | item => item

end Item

/-- The characters of items. -/
def globOf (items : List Item) : Glob :=
  items.flatMap Item.glob

/-- The text of items. -/
def textOf (items : List Item) : Text :=
  (globOf items).text

/-- The state of cutting. -/
structure Cutting where
  /-- The field under way, the last character first. -/
  field : Glob := []
  /-- Whether there is a field under way, even of nothing. -/
  isBegun : Bool := false
  fields : List Glob := []
  /-- White space was passed that another separator belongs to. -/
  afterSpace : Bool := false
  /-- Cut at zero bytes only, now and before. -/
  whole : Bool := false
  wasWhole : Bool := false
  /-- How many fields there may still be, if there is a limit. -/
  left : Option Nat := none
  /-- The length of the last field if what follows is white space only. -/
  kept : Option Nat := none

namespace Cutting

/-- One more character in the field. -/
def push (k : Cutting) (c : Char) (quoted : Bool) : Cutting :=
  { k with field := (c, quoted) :: k.field, isBegun := true }

/-- The field under way is complete. -/
def finish (k : Cutting) : Cutting :=
  { k with fields := k.field.reverse :: k.fields, field := [], isBegun := false }

/-- White space, as a separator. -/
def isSpace (c : Char) : Bool :=
  c = ' ' || c = '\t' || c = '\n' || c = '\x00'

/-- One character of a region. -/
def step (separators : Text) (k : Cutting) (c : Char) : Cutting :=
  let separates := c = '\x00' || (!k.whole && separators.contains c)
  let space := separates && isSpace c
  if k.left = some 0 then
    if space then { k.push c k.whole with kept := k.kept.or (some k.field.length) }
    else
      { k.push c k.whole with
        kept := if separates && k.afterSpace then k.kept else none
        afterSpace := false }
  else if k.afterSpace && space then k
  else if k.afterSpace && separates then { k with afterSpace := false }
  else if separates then
    let space := space && !k.whole && !k.wasWhole
    if !k.isBegun && space then k
    else if k.left = some 1 then
      { k.push c k.whole with left := some 0, kept := some k.field.length, afterSpace := space }
    else { k.finish with left := k.left.map (· - 1), afterSpace := space }
  else { k.push c k.whole with afterSpace := false }

/-- One item. -/
def item (separators : Text) (k : Cutting) : Item → Cutting
  | .chars s quoted => s.foldl (fun k c => k.push c quoted) k
  | .mark => { k with isBegun := true }
  | .region s whole =>
    s.foldl (step separators) { k with whole, wasWhole := k.whole, afterSpace := false }

/-- All fields, the one under way included. -/
def result (k : Cutting) : List Glob :=
  let last := match k.kept with
    | some n => if k.whole then k.field.reverse else k.field.reverse.take n
    | none => k.field.reverse
  let isThere := k.whole || (k.isBegun && (k.kept ≠ some 0))
  (if isThere then last :: k.fields else k.fields).reverse

end Cutting

/-- The fields of items; with a limit, the last field holds all the rest. -/
def fieldsOf (separators : Text) (limit : Option Nat) (items : List Item) : List Glob :=
  (items.foldl (Cutting.item separators) { left := limit }).result

end Directives.Program.Shell
