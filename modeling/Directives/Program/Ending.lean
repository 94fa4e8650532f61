import Directives.Files

/-! What starting a program comes to.

Whoever starts programs runs each to its end and answers what it leaves behind, or
why it was not started (`Program.Start`). Commands take the starting as a parameter;
a machine that runs programs is one way to do it. -/
namespace Directives

namespace Program

/-- How a program ended. -/
inductive Ending where
  | exit (status : Nat)
  | signal (number : Nat)
  deriving DecidableEq, Repr, Inhabited

/-- The names of the signals, from the first one on. -/
def signalNames : List Text :=
  ["HUP", "INT", "QUIT", "ILL", "TRAP", "ABRT", "BUS", "FPE", "KILL", "USR1", "SEGV", "USR2",
    "PIPE", "ALRM", "TERM", "STKFLT", "CHLD", "CONT", "STOP", "TSTP", "TTIN", "TTOU", "URG",
    "XCPU", "XFSZ", "VTALRM", "PROF", "WINCH", "IO", "PWR", "SYS"]

/-- How a program ended, in words. -/
def Ending.message : Ending → Text
  | .exit status => "exit status: " ++ Text.ofNat status
  | .signal number =>
    let name : Text := match signalNames[number - 1]? with
      | some name => " (SIG" ++ name ++ ")"
      | none => []
    "signal: " ++ Text.ofNat number ++ name

end Program

/-- Why a program was not started. -/
inductive StartError where
  | nulByte
  | refused (reason : Refusal)
  deriving DecidableEq, Repr

/-- What is said about it. -/
def StartError.message : StartError → Text
  | .nulByte => "nul byte found in provided data"
  | .refused reason => reason.message

/-- What a program leaves behind. -/
structure Finished where
  ending : Program.Ending
  output : Bytes
  errors : Bytes
  deriving DecidableEq, Repr

/-- What starts a program with its arguments and its input in a world, and runs it to its end. -/
abbrev Program.Start (σ : Type) :=
  σ → Text → List Text → Bytes → Except StartError (Finished × σ)

end Directives
