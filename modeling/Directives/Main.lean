import Directives.Cli.Answer

/-! The program: what it finds around it is read first, and then `Cli.answer` decides. -/
namespace Directives

/-- The places that a walk from `here` comes past. -/
def stops (here : Path) : List Text → List Path
  | [] => [here]
  | step :: steps =>
    let next :=
      if step = [] || step = ['.'] then here
      else if step = ['.', '.'] then here.dropLast
      else here ++ [step]
    here :: stops next steps

/-- The places that resolving a path comes past. -/
def stopsOf (workingDirectory : Path) (path : Text) : List Path :=
  let (here, steps) := FileTree.begin workingDirectory path
  stops here steps

/-- The places that a request itself may read. -/
def placesOf (workingDirectory : Path) (r : Cli.Request) : List Path :=
  let above := (List.range (workingDirectory.length + 1)).map fun n =>
    workingDirectory.take n ++ [Config.fileName]
  let config := match r.globals.config with
    | some path => stopsOf workingDirectory path
    | none => above
  config ++ stopsOf workingDirectory r.input

/-- A character that ends the name of a file in a script. -/
def endsName (c : Char) : Bool :=
  " \t\n\"'<>|&;()$\x60=".toList.contains c

/-- The names of files that a script may mean: whatever stands between blanks, quotes and
signs. -/
def namesIn (script : Text) : List Text :=
  let pieces := Text.splitOn ' ' (script.map fun c => if endsName c then ' ' else c)
  pieces.filter (· ≠ [])

/-- What the programs of a configuration are given. -/
def scriptsOf (c : Config) : List Text :=
  c.commands.flatMap fun (_, i) => i.program :: i.args

/-- Whether a script may mean files by a pattern. -/
def hasPattern (script : Text) : Bool :=
  script.any "*?[".toList.contains

/-- A tree with what stands at a place. -/
def lookAt (tree : FileTree) (path : Path) : IO FileTree := do
  if (tree.place? path).isSome then return tree
  try
    let contents ← IO.FS.readBinFile (String.ofList (Config.written path))
    return { tree with files := (path, contents.toList) :: tree.files }
  catch
    | .inappropriateType .. => return { tree with directories := path :: tree.directories }
    | _ => return tree

/-- A tree with the files that scripts mean, and with those that are meant by scripts among
these. -/
def gather (workingDirectory : Path) (tree : FileTree) (scripts : List Text) : IO FileTree := do
  let mut tree := tree
  if scripts.any hasPattern then
    for entry in ← (← IO.currentDir).readDir do
      tree ← lookAt tree (workingDirectory ++ [entry.fileName.toList])
  let paths (scripts : List Text) := (scripts.flatMap namesIn).flatMap (stopsOf workingDirectory)
  let named ← (paths scripts).foldlM lookAt tree
  let found := (paths scripts).filterMap fun path => named.files.lookup path
  (paths (found.map Utf8.decodeLossy)).foldlM lookAt named

/-- Write down the files that are not as they were. -/
def keep (before after : FileTree) : IO Unit := do
  for (path, contents) in after.files do
    if before.files.lookup path ≠ some contents then
      IO.FS.writeBinFile (String.ofList (Config.written path)) ⟨contents.toArray⟩

/-- The environment of the process. -/
def readEnvironment : IO Environment := do
  try
    let bytes ← IO.FS.readBinFile "/proc/self/environ"
    return (Text.splitOn '\x00' (Utf8.decodeLossy bytes.toList)).filter (· ≠ [])
  catch _ => return []

end Directives

open Directives in
/-- Read what is around, answer, and write the answer down. -/
def main (args : List String) : IO UInt32 := do
  let args := args.map String.toList
  let environment ← readEnvironment
  let workingDirectory := (Text.splitOn '/' (← IO.currentDir).toString.toList).filter (· ≠ [])
  let here := FileTree.beside { directories := [workingDirectory] } FileTree.system
  let bare : Cli.Surroundings := ⟨⟨here, workingDirectory, environment⟩, []⟩
  let surroundings ← match Cli.request bare args with
    | .ok r => do
      let tree ← (placesOf workingDirectory r).foldlM lookAt bare.machine.tree
      let scripts :=
        match Config.load tree workingDirectory environment.value? r.globals.config {} with
        | .ok c => scriptsOf c
        | .error _ => []
      let tree ← gather workingDirectory tree scripts
      let input ← if Cli.isStandardInput r.input then (← IO.getStdin).readBinToEnd else pure ⟨#[]⟩
      pure ⟨{ bare.machine with tree }, input.toList⟩
    | .error _ => pure bare
  let answer := Cli.answer surroundings args
  answer.tree.forM (keep surroundings.machine.tree)
  (← IO.getStdout).putStr (String.ofList answer.output)
  (← IO.getStderr).putStr (String.ofList answer.errors)
  return answer.status.toUInt32
