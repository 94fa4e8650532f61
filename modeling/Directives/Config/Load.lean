import Directives.Config.Decode
import Directives.Config.Validation
import Directives.Files

/-! Finding and loading a configuration.

The file is the one that is named, or else `quill.toml` in the working directory or
the nearest directory above it that has one. Settings go over what was loaded and are
not checked. -/
namespace Directives.Config

/-- The name of the file that is looked for. -/
def fileName : Text := "quill.toml"

/-- The nearest configuration file at a directory or above, given the steps to the directory
from the inmost outwards. -/
def discoverFrom (tree : FileTree) : List Text → Option Path
  | [] => if (tree.place? [fileName]).isSome then some [fileName] else none
  | step :: above =>
    let candidate := (step :: above).reverse ++ [fileName]
    if (tree.place? candidate).isSome then some candidate else discoverFrom tree above

/-- The nearest configuration file at the working directory or above. -/
def discover (tree : FileTree) (workingDirectory : Path) : Option Path :=
  discoverFrom tree workingDirectory.reverse

/-- A path as it is written from the root. -/
def written (path : Path) : Text :=
  '/' :: Text.joined ['/'] path

/-- The configuration in the file at `path`. -/
def loadFile (tree : FileTree) (workingDirectory : Path) (env : Template.Valuation)
    (path : Text) : Except Error Config := do
  let text ← (tree.read workingDirectory path).mapError fun e => .unreadable e.message
  match ofToml? text with
  | none => .error .malformed
  | some c =>
    let c ← c.expand env
    c.validate
    return { c with path := some path }

/-- The configuration, settings not yet applied. -/
def loadBase (tree : FileTree) (workingDirectory : Path) (env : Template.Valuation)
    (explicit : Option Text) : Except Error Config :=
  match explicit with
  | some path =>
    if tree.has workingDirectory path then loadFile tree workingDirectory env path
    else .error (.notFound path)
  | none =>
    match discover tree workingDirectory with
    | some path => loadFile tree workingDirectory env (written path)
    | none => .ok {}

/-- The configuration with settings over it. -/
def load (tree : FileTree) (workingDirectory : Path) (env : Template.Valuation)
    (explicit : Option Text) (settings : Settings) : Except Error Config :=
  (·.apply settings) <$> loadBase tree workingDirectory env explicit

end Directives.Config
