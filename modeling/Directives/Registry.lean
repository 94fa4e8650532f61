import Directives.Event
import Directives.Json.Value
import Directives.Unicode.Case

/-! Commands by name.

A directive `page-title` calls the command registered as `pageTitle`. A registry
holds one command of each name; registering another replaces it. -/
namespace Directives

/-- The name of the command that a directive calls: each hyphen goes, and the character
behind it is put in upper case. -/
def camelCase (name : Text) : Text :=
  go false name
where
  go (raise : Bool) : Text → Text
    | [] => []
    | c :: cs =>
      if c = '-' then go true cs
      else (if raise then Unicode.upperChar c else [c]) ++ go false cs

/-- A named action on a value and the world. -/
structure Command (σ : Type) where
  name : Text
  call : Value → Act σ Value

/-- Commands, each name once. -/
structure Registry (σ : Type) where
  commands : List (Command σ) := []
  distinct : (commands.map (·.name)).Nodup := by simp

namespace Registry

variable {σ : Type}

/-- The registry without commands. -/
instance : EmptyCollection (Registry σ) := ⟨{}⟩

/-- Add a command, in place of one of the same name. -/
def register (r : Registry σ) (command : Command σ) : Registry σ where
  commands := command :: r.commands.filter (·.name ≠ command.name)
  distinct := by
    rw [List.map_cons, List.nodup_cons]
    refine ⟨?_, (r.distinct.sublist (List.filter_sublist.map _))⟩
    simp only [List.mem_map, List.mem_filter, decide_eq_true_eq, not_exists, not_and, and_imp]
    exact fun _ _ hne => hne

/-- Add commands one after the other. -/
def registerAll (r : Registry σ) (commands : List (Command σ)) : Registry σ :=
  commands.foldl register r

/-- The command registered under a name. -/
def resolve? (r : Registry σ) (name : Text) : Option (Command σ) :=
  r.commands.find? (·.name = name)

/-- Whether a command is registered under a name. -/
def contains (r : Registry σ) (name : Text) : Bool :=
  (r.resolve? name).isSome

/-- The registered names in order. -/
def names (r : Registry σ) : List Text :=
  (r.commands.map (·.name)).mergeSort Text.le

@[simp] theorem resolve?_register_self (r : Registry σ) (c : Command σ) :
    (r.register c).resolve? c.name = some c := by
  simp [register, resolve?]

/-- Registering a command leaves the other names alone. -/
theorem resolve?_register_of_ne (r : Registry σ) {c : Command σ} {name : Text}
    (h : name ≠ c.name) : (r.register c).resolve? name = r.resolve? name := by
  simp only [register, resolve?]
  rw [List.find?_cons_of_neg (by simpa using h.symm), List.find?_filter]
  congr 1
  funext d
  by_cases hd : d.name = name <;> simp [hd, h]

end Registry
end Directives
