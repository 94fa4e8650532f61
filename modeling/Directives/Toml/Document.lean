import Directives.Json.Binary64
import Directives.Text.Basic

/-! TOML documents as tables.

A document is a list of statements: headers, which open a table, and assignments,
which go into the open table. How a table came about decides what may be added to it:
a header opens a table once, dotted keys extend only tables without a header of their
own and make them theirs, and nothing extends an inline table. -/
namespace Directives.Toml

/-- How a table came about. -/
inductive Origin where
  /-- By a header of its own. -/
  | header
  /-- By the header of a table inside it. -/
  | implied
  /-- By dotted keys, or extended by them. -/
  | dotted
  /-- Between braces. -/
  | inline
  deriving DecidableEq, Repr

/-- What a key can stand for. Numbers and dates are kept as they are written, but for the
underscores in numbers, and integers also without the `0x` and the like in front. -/
inductive Item where
  | string (s : Text)
  | boolean (b : Bool)
  | integer (radix : Nat) (written : Text)
  | float (written : Text)
  | date (written : Text)
  | array (items : List Item)
  | table (origin : Origin) (entries : List (Text × Item))
  /-- An array of tables, the last of them still open. -/
  | tables (earlier : List (List (Text × Item))) (last : List (Text × Item))

/-- The entries of a table, in the order of their keys' first mention. -/
abbrev Entries := List (Text × Item)

namespace Entries

/-- Put an item in place of that of a key. -/
def replace (entries : Entries) (key : Text) (item : Item) : Entries :=
  entries.map fun (k, i) => if k = key then (k, item) else (k, i)

/-- Assign an item to a dotted key. An array of tables stands for its last one, which only longer
keys extend. -/
def assign (item : Item) : List Text → Entries → Option Entries
  | [], _ => none
  | [key], entries =>
    match entries.lookup key with
    | none => some (entries ++ [(key, item)])
    | some _ => none
  | key :: path, entries =>
    match entries.lookup key with
    | none => (assign item path []).map fun inner => entries ++ [(key, .table .dotted inner)]
    | some (.table origin inner) =>
      if origin = .dotted || origin = .implied then
        (assign item path inner).map fun inner => replace entries key (.table .dotted inner)
      else none
    | some (.tables earlier last) =>
      if path.length = 1 then none
      else (assign item path last).map fun last => replace entries key (.tables earlier last)
    | some _ => none

/-- Change the table that a header names, the tables on the way being made where they are
missing; an array of tables stands for its last one. -/
def within (change : Entries → Option Entries) : List Text → Entries → Option Entries
  | [], entries => change entries
  | key :: path, entries =>
    match entries.lookup key with
    | none => (within change path []).map fun inner => entries ++ [(key, .table .implied inner)]
    | some (.table origin inner) =>
      if origin = .inline then none
      else (within change path inner).map fun inner => replace entries key (.table origin inner)
    | some (.tables earlier last) =>
      (within change path last).map fun last => replace entries key (.tables earlier last)
    | some _ => none

/-- Open a table for a header. -/
def openTable (key : Text) (entries : Entries) : Option Entries :=
  match entries.lookup key with
  | none => some (entries ++ [(key, .table .header [])])
  | some (.table .implied inner) => some (replace entries key (.table .header inner))
  | some _ => none

/-- Open one more table of an array of tables. -/
def openElement (key : Text) (entries : Entries) : Option Entries :=
  match entries.lookup key with
  | none => some (entries ++ [(key, .tables [] [])])
  | some (.tables earlier last) => some (replace entries key (.tables (earlier ++ [last]) []))
  | some _ => none

end Entries

/-- A line of a document that says something. -/
inductive Statement where
  | table (path : List Text)
  | element (path : List Text)
  | assign (path : List Text) (item : Item)

/-- A document under way: the path of the open table, and all entries. -/
structure Document where
  current : List Text := []
  entries : Entries := []

/-- One more statement. -/
def Document.add (d : Document) : Statement → Option Document
  | .table path => do
    let key ← path.getLast?
    let entries ← Entries.within (Entries.openTable key) path.dropLast d.entries
    some ⟨path, entries⟩
  | .element path => do
    let key ← path.getLast?
    let entries ← Entries.within (Entries.openElement key) path.dropLast d.entries
    some ⟨path, entries⟩
  | .assign path item => do
    let entries ← Entries.within (Entries.assign item path) d.current d.entries
    some { d with entries := entries }

/-- The entries of a document, if its statements agree with one another. -/
def Document.ofStatements? (statements : List Statement) : Option Entries :=
  (statements.foldlM Document.add {}).map (·.entries)

end Directives.Toml
