import Directives.Program.Basic

/-! Finding the program to start.

A name with a slash is a path. Any other name is looked for in the directories of the
search path, one after the other; a place that holds no program is passed over, but
remembered. -/
namespace Directives.Program

/-- The variable that holds the search path. -/
def searchVariable : Text := "PATH"

/-- The search path where the variable has no value. -/
def defaultSearch : Text := "/bin:/usr/bin"

/-- The program at the end of a path. -/
def programAt (tree : FileTree) (workingDirectory : Path) (path : Text) : Except Refusal Text :=
  match tree.resolve workingDirectory path with
  | .ok (.program name) => .ok name
  | .ok _ => .error .denied
  | .error reason => .error reason

/-- A name in a directory, as a path is written. -/
def inDirectory (directory name : Text) : Text :=
  if directory.isEmpty then name else directory ++ '/' :: name

/-- The first program of a name in directories; `denied` says whether a place without one was
passed. -/
def search (tree : FileTree) (workingDirectory : Path) (name : Text) (denied : Bool) :
    List Text → Except Refusal Text
  | [] => .error (if denied then .denied else .missing)
  | directory :: directories =>
    match programAt tree workingDirectory (inDirectory directory name) with
    | .ok program => .ok program
    | .error .denied => search tree workingDirectory name true directories
    | .error .missing | .error .notDirectory =>
      search tree workingDirectory name denied directories
    | .error reason => .error reason

/-- The program that a name stands for. -/
def find (tree : FileTree) (workingDirectory : Path) (searchPath name : Text) :
    Except Refusal Text :=
  if name.isEmpty then .error .missing
  else if name.contains '/' then programAt tree workingDirectory name
  else search tree workingDirectory name false (Text.splitOn ':' searchPath)

end Directives.Program
