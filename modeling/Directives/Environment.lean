import Directives.Text.Utf8

/-! The environment of a process: settings `NAME=VALUE` in order. -/
namespace Directives

/-- Settings, of which the first one of a name counts. -/
abbrev Environment := List Text

namespace Environment

/-- The value of a name: what stands behind the name and an equals sign in the first setting that
begins with them. -/
def value? (env : Environment) (name : Text) : Option Text :=
  if name.isEmpty then none else env.findSome? (Text.after? (name ++ ['=']))

/-- The settings as names and values, each cut at its first equals sign. -/
def assignments (env : Environment) : List (Text × Text) :=
  env.filterMap (Text.cutAt? '=')

/-- An environment with a setting in front of the others. -/
def set (env : Environment) (name value : Text) : Environment :=
  (name ++ '=' :: value) :: env

/-- A value that was set is found. -/
theorem value?_set (env : Environment) {name : Text} (value : Text) (h : name ≠ []) :
    (env.set name value).value? name = some value := by
  have : Text.after? (name ++ ['=']) (name ++ '=' :: value) = some value :=
    Text.after?_eq_some_iff.2 (by simp)
  simp [value?, set, h, this]

end Environment
end Directives
