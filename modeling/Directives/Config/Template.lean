import Directives.Config.Basic
import Directives.Unicode.Alphanumeric

/-! References to environment variables.

`${V}` stands for the value of the variable `V`, `${V:-d}` for `d` where it has none.
A value is taken as it is, without a further look at it. Only a text that holds `${`
is expanded at all; in such a text `$V` is a reference too and `$$` stands for `$`. -/
namespace Directives.Template

/-- The values of the environment variables that have one. -/
abbrev Valuation := Text → Option Text

/-- What a reference between braces names: the variable and the default. The first `:-` begins
the default, unless no name is in front of it. -/
def reference (s : Text) : Text × Option Text :=
  match split s with
  | some ([], _) | none => (s, none)
  | some (name, default) => (name, some default)
where
  split : Text → Option (Text × Text)
    | [] => none
    | ':' :: '-' :: rest => some ([], rest)
    | c :: cs => (split cs).map fun (name, rest) => (c :: name, rest)

/-- A character of the name of a plain reference. -/
def isNameChar (c : Char) : Bool :=
  Unicode.isAlphanumeric c || c == '_'

/-- The value of a reference, or the name of the variable that has none. -/
def value (env : Valuation) (name : Text) (default : Option Text) : Except Text Text :=
  match env name <|> default with
  | some v => .ok v
  | none => .error name

/-- Expand the references of a text, or answer the first variable without a value. -/
def expandAll (env : Valuation) : Text → Except Text Text
  | [] => .ok []
  | '$' :: '{' :: rest =>
    match h : Text.cutAt? '}' rest with
    | some (inner, after) => do
      have := Text.length_lt_of_cutAt? h
      let (name, default) := reference inner
      let v ← value env name default
      let expanded ← expandAll env after
      return v ++ expanded
    | none => ('$' :: '{' :: ·) <$> expandAll env rest
  | '$' :: '$' :: rest => ('$' :: ·) <$> expandAll env rest
  | '$' :: rest =>
    match rest.takeWhile isNameChar with
    | [] => ('$' :: ·) <$> expandAll env rest
    | name => do
      have : (rest.dropWhile isNameChar).length ≤ rest.length :=
        (List.dropWhile_suffix isNameChar).length_le
      let v ← value env name none
      let expanded ← expandAll env (rest.dropWhile isNameChar)
      return v ++ expanded
  | c :: rest => (c :: ·) <$> expandAll env rest
  termination_by s => s.length

/-- Expand a text that holds `${`. -/
def expand (env : Valuation) (s : Text) : Except Text Text :=
  if Text.hasPart ['$', '{'] s then expandAll env s else .ok s

end Directives.Template
