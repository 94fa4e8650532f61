import Directives.Builtin
import Directives.Program.External
import Directives.Program.Machine

/-! The commands of a configuration: the built-in ones and then the configured programs,
each of which replaces a command of the same name. -/
namespace Directives.Registry

/-- The built-in commands and the programs that `start` starts, registered in the given order. -/
def ofPrograms {σ : Type} (start : Program.Start σ) (invocations : List (Text × Invocation)) :
    Registry σ :=
  Builtin.registry.registerAll (invocations.map fun (name, i) => i.command start name)

/-- The built-in commands and programs of a machine. -/
def ofInvocations (invocations : List (Text × Invocation)) : Registry Machine :=
  ofPrograms Machine.start invocations

end Directives.Registry
