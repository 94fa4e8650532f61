import Directives.Files
import Directives.Program.Octets
import Directives.Program.Shell.Pattern

/-! The paths that a pattern stands for.

Every step of the pattern is matched against the names in a directory. A name that
begins with a point is passed over unless the pattern begins with one as well. -/
namespace Directives.Program.Shell

/-- The steps of a pattern. -/
def stepsOf : Glob → List Glob
  | [] => [[]]
  | (c, quoted) :: rest =>
    if c = '/' then [] :: stepsOf rest
    else match stepsOf rest with
      | [] => [[(c, quoted)]]
      | step :: steps => ((c, quoted) :: step) :: steps

/-- The names in a directory, as byte text. -/
def namesIn (tree : FileTree) (workingDirectory : Path) (directory : Text) : List Text :=
  let path := if directory.isEmpty then ['.'] else Octets.toText directory
  match tree.locate workingDirectory path with
  | .ok found =>
    if tree.place? found = some .directory then (tree.names found).map Octets.ofText else []
  | .error _ => []

/-- The names that a step of a pattern stands for. -/
def matching (step : Glob) (names : List Text) : List Text :=
  let pattern := step.pattern
  let withPoint := step.text.head? = some '.'
  let names := if withPoint then ['.'] :: ['.', '.'] :: names else names
  names.filter fun name => (withPoint || name.head? ≠ some '.') && pattern.covers name

/-- The paths that lead on from `begun` as the steps say. -/
def pathsFrom (tree : FileTree) (workingDirectory : Path) (begun : Text) :
    List Glob → List Text
  | [] => []
  | [step] =>
    if step.pattern.isOpen then
      (matching step (namesIn tree workingDirectory begun)).map (begun ++ ·)
    else
      let path := begun ++ step.text
      if tree.has workingDirectory (Octets.toText path) then [path] else []
  | step :: steps =>
    if step.pattern.isOpen then
      (matching step (namesIn tree workingDirectory begun)).flatMap fun name =>
        pathsFrom tree workingDirectory (begun ++ name ++ ['/']) steps
    else pathsFrom tree workingDirectory (begun ++ step.text ++ ['/']) steps

/-- The paths that a pattern stands for in order; none if it stands for itself only. -/
def pathsOf (tree : FileTree) (workingDirectory : Path) (g : Glob) : List Text :=
  let steps := stepsOf g.resolved
  if steps.any fun step => step.pattern.isOpen then
    (pathsFrom tree workingDirectory [] steps).mergeSort Text.le
  else []

end Directives.Program.Shell
