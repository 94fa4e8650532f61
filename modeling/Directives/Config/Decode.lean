import Directives.Config.Basic
import Directives.Toml.Read

/-! Configurations in TOML.

Keys that are not known are left out of account, only that their numbers have to be
some, and what is left out keeps its default. In place of a table an array may stand,
with the values of the fields in their order and anything behind them. -/
namespace Directives.Config

open Toml

/-- The entries, if the numbers of those with other names are sound. -/
def known? (names : List Text) (entries : Entries) : Option Entries :=
  if entries.all fun (name, item) => names.contains name || item.isSound then some entries else none

/-- The fields of a record with fields of the given names. A date has none of them. -/
def fields? (names : List Text) : Item → Option Entries
  | .table _ entries => known? names entries
  | .array items => some (names.zip items)
  | .tables earlier last => some (names.zip ((earlier ++ [last]).map (.table .header)))
  | .date _ => some []
  | _ => none

/-- A text, and nothing else. -/
def text? : Item → Option Text
  | .string s => some s
  | _ => none

/-- A boolean, and nothing else. -/
def bool? : Item → Option Bool
  | .boolean b => some b
  | _ => none

/-- An array of texts. -/
def texts? : Item → Option (List Text)
  | .array items => items.mapM text?
  | _ => none

/-- The value of a field that may not be left out. -/
def field? {α : Type} (fields : Entries) (name : Text) (decode : Item → Option α) : Option α :=
  fields.lookup name >>= decode

/-- The value of a field, or its default where the field is left out. -/
def fieldOr {α : Type} (fields : Entries) (name : Text) (decode : Item → Option α) (default : α) :
    Option α :=
  match fields.lookup name with
  | some item => decode item
  | none => some default

/-- A record of one field. -/
def single {α : Type} (name : Text) (decode : Item → Option α) (default : α) (item : Item) :
    Option α := do
  let fields ← fields? [name] item
  fieldOr fields name decode default

/-- A command: a program, which may not be left out, and its arguments. -/
def invocation? (item : Item) : Option Invocation := do
  let fields ← fields? ["program", "args"] item
  let program ← field? fields "program" text?
  let args ← fieldOr fields "args" texts? []
  some ⟨program, args⟩

/-- The commands by name; here no array may stand for the table. -/
def commands? : Item → Option (List (Text × Invocation))
  | .table _ entries =>
    entries.foldlM (fun commands (name, item) => do
      let invocation ← invocation? item
      some (insertCommand name invocation commands)) []
  | _ => none

/-- The configuration of a document. -/
def ofEntries? (entries : Entries) : Option Config := do
  let entries ← known? ["extract", "chain", "log", "commands"] entries
  let default : Config := {}
  let stripTabs ←
    fieldOr entries "extract" (single "strip_tabs" bool? default.stripTabs) default.stripTabs
  let chain ← fieldOr entries "chain" (single "enabled" bool? default.chain) default.chain
  let logLevel ← fieldOr entries "log" (single "level" text? default.logLevel) default.logLevel
  let commands ← fieldOr entries "commands" commands? default.commands
  some { stripTabs, chain, logLevel, commands }

/-- The configuration that a text holds. -/
def ofToml? (s : Text) : Option Config :=
  Toml.read? s >>= ofEntries?

end Directives.Config
