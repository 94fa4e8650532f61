import Directives.Program.Cat
import Directives.Program.Format
import Directives.Program.Shell
import Directives.Program.Transliterate

/-! The programs that can be started. -/
namespace Directives.Program

/-- The programs, of which `sh` can start others down to a depth. -/
def programs : Nat → Programs
  | 0 => fun _ => none
  | depth + 1 => fun name =>
    let table : List (Text × Behaviour) :=
      [("cat", cat), ("dash", sh (programs depth)), ("echo", echo),
        ("false", fun _ => return .exit 1), ("printf", printf), ("sh", sh (programs depth)),
        ("tr", tr), ("true", fun _ => return .exit 0)]
    table.lookup name

end Directives.Program
