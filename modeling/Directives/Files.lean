import Directives.Text.Utf8

/-! A tree of files.

A path is resolved step by step from the working directory; every step but the last
has to lead to a directory. A directory is there when it is listed or when something
listed lies in it. Next to files the tree holds devices and the programs that can be
started. -/
namespace Directives

/-- The steps from the root. -/
abbrev Path := List Text

/-- A file that is no store of bytes. -/
inductive Device where
  /-- Nothing is read from it, and what is written is gone. -/
  | null
  /-- Nothing can be written to it. -/
  | full
  /-- What a process has open under a number. -/
  | opened (number : Nat)
  deriving DecidableEq, Repr

/-- Files with their contents, devices, programs by name, and directories. -/
structure FileTree where
  files : List (Path × Bytes) := []
  devices : List (Path × Device) := []
  programs : List (Path × Text) := []
  directories : List Path := []
  deriving DecidableEq, Repr, Inhabited

/-- What a path leads to. -/
inductive Place where
  | file (contents : Bytes)
  | device (device : Device)
  | program (name : Text)
  | directory
  deriving DecidableEq, Repr

/-- Why the system does not do what it is asked. -/
inductive Refusal where
  | missing
  | argumentsTooLong
  | badHandle
  | denied
  | notDirectory
  | isDirectory
  | noSpace
  | nameTooLong
  deriving DecidableEq, Repr

/-- The number of a refusal. -/
def Refusal.number : Refusal → Nat
  | .missing => 2
  | .argumentsTooLong => 7
  | .badHandle => 9
  | .denied => 13
  | .notDirectory => 20
  | .isDirectory => 21
  | .noSpace => 28
  | .nameTooLong => 36

/-- A refusal in words. -/
def Refusal.reason : Refusal → Text
  | .missing => "No such file or directory"
  | .argumentsTooLong => "Argument list too long"
  | .badHandle => "Bad file descriptor"
  | .denied => "Permission denied"
  | .notDirectory => "Not a directory"
  | .isDirectory => "Is a directory"
  | .noSpace => "No space left on device"
  | .nameTooLong => "File name too long"

/-- What is said about a refusal. -/
def Refusal.message (r : Refusal) : Text :=
  r.reason ++ " (os error " ++ Text.ofNat r.number ++ ")"

/-- Why the text of a file cannot be read. -/
inductive FileError where
  | refused (reason : Refusal)
  | notUtf8
  deriving DecidableEq, Repr

/-- What is said about an error. -/
def FileError.message : FileError → Text
  | .refused reason => reason.message
  | .notUtf8 => "stream did not contain valid UTF-8"

/-- The text of bytes, which have to be UTF-8. -/
def Utf8.text (bytes : Bytes) : Except FileError Text :=
  match Utf8.decode? bytes with
  | some s => .ok s
  | none => .error .notUtf8

namespace FileTree

/-- The places that hold something. -/
def places (tree : FileTree) : List Path :=
  tree.files.map (·.1) ++ tree.devices.map (·.1) ++ tree.programs.map (·.1) ++ tree.directories

/-- What stands at the end of the steps. -/
def place? (tree : FileTree) (path : Path) : Option Place :=
  match tree.files.lookup path, tree.devices.lookup path, tree.programs.lookup path with
  | some contents, _, _ => some (.file contents)
  | none, some device, _ => some (.device device)
  | none, none, some name => some (.program name)
  | none, none, none =>
    if path.isEmpty || tree.places.any path.isPrefixOf then some .directory else none

/-- The bytes that one step may have. -/
def longestStep : Nat := 255

/-- The bytes that a path may have. -/
def longestPath : Nat := 4095

/-- Go on from a place in the tree. -/
def walk (tree : FileTree) (here : Path) : List Text → Except Refusal Path
  | [] => if (tree.place? here).isSome then .ok here else .error .missing
  | step :: steps =>
    match tree.place? here with
    | none => .error .missing
    | some .directory =>
      if step = [] || step = ['.'] then walk tree here steps
      else if step = ['.', '.'] then walk tree here.dropLast steps
      else if longestStep < step.byteSize then .error .nameTooLong
      else walk tree (here ++ [step]) steps
    | some _ => .error .notDirectory

/-- Where a written path begins, and its steps. -/
def begin (workingDirectory : Path) : Text → Path × List Text
  | '/' :: rest => ([], Text.splitOn '/' rest)
  | path => (workingDirectory, Text.splitOn '/' path)

/-- Where a path leads, from the working directory or, with a slash in front, from the root. -/
def locate (tree : FileTree) (workingDirectory : Path) (path : Text) : Except Refusal Path :=
  if path.isEmpty then .error .missing
  else if longestPath < path.byteSize then .error .nameTooLong
  else
    let (here, steps) := begin workingDirectory path
    tree.walk here steps

/-- Where a path leads if its last step may lead to a file that is still to be made. -/
def locateNew (tree : FileTree) (workingDirectory : Path) (path : Text) : Except Refusal Path :=
  match tree.locate workingDirectory path with
  | .error .missing =>
    let (here, steps) := begin workingDirectory path
    match steps.getLast? with
    | none | some [] => .error (if path.isEmpty then .missing else .isDirectory)
    | some name => do
      let above ← tree.walk here steps.dropLast
      match tree.place? above with
      | some .directory => .ok (above ++ [name])
      | _ => .error .notDirectory
  | found => found

/-- What a path leads to. -/
def resolve (tree : FileTree) (workingDirectory : Path) (path : Text) : Except Refusal Place := do
  let found ← tree.locate workingDirectory path
  match tree.place? found with
  | some place => .ok place
  | none => .error .missing

/-- Whether a path leads anywhere. -/
def has (tree : FileTree) (workingDirectory : Path) (path : Text) : Bool :=
  match tree.locate workingDirectory path with
  | .ok _ => true
  | .error _ => false

/-- The text of a file. -/
def read (tree : FileTree) (workingDirectory : Path) (path : Text) : Except FileError Text :=
  match tree.resolve workingDirectory path with
  | .error reason => .error (.refused reason)
  | .ok .directory => .error (.refused .isDirectory)
  | .ok (.file contents) => Utf8.text contents
  | .ok (.device _) | .ok (.program _) => .ok []

/-- Put contents into a file, which is made if it is not there. -/
def write (tree : FileTree) (path : Path) (contents : Bytes) : FileTree :=
  if (tree.files.lookup path).isSome then
    { tree with files := tree.files.map fun (p, old) => (p, if p = path then contents else old) }
  else { tree with files := tree.files ++ [(path, contents)] }

/-- The names in a directory. -/
def names (tree : FileTree) (directory : Path) : List Text :=
  let below := tree.places.filterMap fun place =>
    if directory.isPrefixOf place then (place.drop directory.length).head? else none
  below.eraseDups

/-- The devices of `/dev` that every tree has. -/
def standardDevices : List (Path × Device) :=
  [(["dev", "null"], .null), (["dev", "full"], .full), (["dev", "stdin"], .opened 0),
    (["dev", "stdout"], .opened 1), (["dev", "stderr"], .opened 2)]

/-- The devices of `/dev/fd` that every tree has. -/
def numberedDevices : List (Path × Device) :=
  (List.range 10).map fun n => (["dev".toList, "fd".toList, Text.ofNat n], .opened n)

/-- The names of the programs that every tree has. -/
def installed : List Text :=
  ["cat", "dash", "echo", "false", "printf", "sh", "tr", "true"]

/-- The directories that every tree has. -/
def standardDirectories : List Path :=
  [["boot"], ["home"], ["lib"], ["media"], ["mnt"], ["opt"], ["proc"], ["root"], ["run"],
    ["sbin"], ["srv"], ["sys"], ["tmp"], ["usr", "lib"], ["usr", "local"], ["usr", "sbin"],
    ["usr", "share"], ["var", "tmp"]]

/-- What every tree has. -/
def system : FileTree where
  files := [(["etc", "passwd"], []), (["etc", "hosts"], []), (["etc", "group"], [])]
  devices := standardDevices ++ numberedDevices
  programs := installed.flatMap fun name =>
    [(["bin".toList, name], name), (["usr".toList, "bin".toList, name], name)]
  directories := standardDirectories

/-- A tree beside what every tree has. -/
def beside (tree : FileTree) (other : FileTree) : FileTree where
  files := tree.files ++ other.files
  devices := tree.devices ++ other.devices
  programs := tree.programs ++ other.programs
  directories := tree.directories ++ other.directories

end FileTree
end Directives
