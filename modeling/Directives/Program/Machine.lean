import Directives.Environment
import Directives.Program.Installed
import Directives.Program.Start

/-! The machine that commands start programs on. -/
namespace Directives

/-- Files, a working directory and an environment. -/
structure Machine where
  tree : FileTree
  workingDirectory : Path
  environment : Environment
  deriving Inhabited

namespace Machine

/-- The bytes that one argument may have. -/
def longestArgument : Nat := 131071

/-- How deep programs may start programs. -/
def depth : Nat := 64

/-- Start a program and run it to its end. -/
def start (m : Machine) (program : Text) (args : List Text) (input : Bytes) :
    Except StartError (Finished × Machine) := do
  if (program :: args).any (·.contains '\x00') then throw .nulByte
  let searchPath := (m.environment.value? Program.searchVariable).getD Program.defaultSearch
  let found ← (Program.find m.tree m.workingDirectory searchPath program).mapError .refused
  if (program :: args).any (longestArgument < ·.byteSize) then
    throw (.refused .argumentsTooLong)
  let some behaviour := Program.programs depth found | throw (.refused .denied)
  let process : Program.Process := {
    name := Octets.ofText program
    args := args.map Octets.ofText
    environment := m.environment.assignments.map fun (name, value) =>
      (Octets.ofText name, Octets.ofText value)
    workingDirectory := m.workingDirectory
    handles := [(0, 0), (1, 1), (2, 2)] }
  let system : System :=
    { tree := m.tree, streams := #[.source (Octets.ofBytes input), .sink [], .sink []] }
  let (ending, system) := (behaviour process).run system
  let written (place : Nat) : Bytes := Octets.toBytes ((System.written place).run system).1
  return (⟨ending, written 1, written 2⟩, { m with tree := system.tree })

end Machine
end Directives
