import Directives.Files
import Directives.Program.Octets

/-! What programs act on: the tree of files and what is open.

A process knows what it has open by small numbers; each stands for a stream, which
several processes can share together with the place in it. -/
namespace Directives

/-- What an open file may be used for. -/
structure Mode where
  reads : Bool := false
  writes : Bool := false
  /-- Everything is written behind what is there. -/
  appends : Bool := false
  deriving DecidableEq, Repr

/-- What stands behind something open. -/
inductive Stream where
  /-- What is still to be read. -/
  | source (left : Text)
  /-- What was written, the last piece first. -/
  | sink (pieces : List Text)
  | file (path : Path) (position : Nat) (mode : Mode)
  | directory
  | null
  | full
  deriving DecidableEq, Repr, Inhabited

/-- The tree and the streams, each known by its place. -/
structure System where
  tree : FileTree
  streams : Array Stream := #[]
  deriving Inhabited

/-- An action on the system. -/
abbrev Sys := StateM System

/-- What a process has open: numbers and the places of their streams. -/
abbrev Handles := List (Nat × Nat)

namespace System

/-- One more stream. -/
def add (s : Stream) : Sys Nat :=
  modifyGet fun system => (system.streams.size, { system with streams := system.streams.push s })

/-- The stream at a place. -/
def stream (place : Nat) : Sys Stream := do
  return ((← get).streams[place]?).getD .null

/-- Put a stream into a place. -/
def setStream (place : Nat) (s : Stream) : Sys Unit :=
  modify fun system => { system with streams := system.streams.setIfInBounds place s }

/-- What a file holds. -/
def contents (path : Path) : Sys Text := do
  return Octets.ofBytes (((← get).tree.files.lookup path).getD [])

/-- Put text into a file. -/
def setContents (path : Path) (text : Text) : Sys Unit :=
  modify fun system => { system with tree := system.tree.write path (Octets.toBytes text) }

/-- Everything that was written to a sink. -/
def written (place : Nat) : Sys Text := do
  match ← stream place with
  | .sink pieces => return pieces.reverse.flatten
  | _ => return []

/-- What was written to a sink is there to be read. -/
def turn (place : Nat) : Sys Unit := do
  setStream place (.source (← written place))

/-- Read what is left of a stream up to where `cut` cuts it. -/
def readWith (cut : Text → Text × Text) (place : Nat) : Sys (Except Refusal Text) := do
  match ← stream place with
  | .source left =>
    let (now, later) := cut left
    setStream place (.source later)
    return .ok now
  | .file path position mode =>
    if mode.reads then
      let (now, _) := cut ((← contents path).drop position)
      setStream place (.file path (position + now.length) mode)
      return .ok now
    else return .error .badHandle
  | .sink _ => return .error .badHandle
  | .directory => return .error .isDirectory
  | .null | .full => return .ok []

/-- Read everything. -/
def readAll : Nat → Sys (Except Refusal Text) :=
  readWith fun s => (s, [])

/-- Read up to the end of a line, the line feed included. -/
def readLine : Nat → Sys (Except Refusal Text) :=
  readWith fun s =>
    match Text.cutAt? '\n' s with
    | some (line, rest) => (line ++ ['\n'], rest)
    | none => (s, [])

/-- Write text to a stream. -/
def write (place : Nat) (text : Text) : Sys (Except Refusal Unit) := do
  match ← stream place with
  | .sink pieces =>
    setStream place (.sink (text :: pieces))
    return .ok ()
  | .file path position mode =>
    if mode.writes then
      let old ← contents path
      let position := if mode.appends then old.length else position
      let gap := List.replicate (position - old.length) '\x00'
      setContents path (old.take position ++ gap ++ text ++ old.drop (position + text.length))
      setStream place (.file path (position + text.length) mode)
      return .ok ()
    else return .error .badHandle
  | .null => return .ok ()
  | .full => return if text.isEmpty then .ok () else .error .noSpace
  | .source _ | .directory => return .error .badHandle

/-- How a file is opened. -/
structure Opening where
  mode : Mode
  /-- A file that is not there is made. -/
  creates : Bool := false
  /-- What the file holds is dropped. -/
  empties : Bool := false

/-- To read. -/
def Opening.toRead : Opening := ⟨{ reads := true }, false, false⟩

/-- To write, from the start. -/
def Opening.toWrite : Opening := ⟨{ writes := true }, true, true⟩

/-- To write behind what is there. -/
def Opening.toAppend : Opening := ⟨{ writes := true, appends := true }, true, false⟩

/-- To read and to write. -/
def Opening.both : Opening := ⟨{ reads := true, writes := true }, true, false⟩

/-- Open what stands at the end of a path, for a process that has `handles` open. -/
def openFile (workingDirectory : Path) (handles : Handles) (path : Text) (opening : Opening) :
    Sys (Except Refusal Nat) := do
  let tree := (← get).tree
  let path := Octets.toText path
  let found :=
    if opening.creates then tree.locateNew workingDirectory path
    else tree.locate workingDirectory path
  match found with
  | .error reason => return .error reason
  | .ok path =>
    match tree.place? path with
    | some .directory =>
      if opening.mode.writes then return .error .isDirectory
      else return .ok (← add .directory)
    | some (.device .null) => return .ok (← add .null)
    | some (.device .full) => return .ok (← add .full)
    | some (.device (.opened number)) =>
      match handles.lookup number with
      | some place => return .ok place
      | none => return .error .missing
    | some (.program _) =>
      if opening.mode.writes then return .error .denied else return .ok (← add (.source []))
    | some (.file _) =>
      if opening.empties then setContents path []
      return .ok (← add (.file path 0 opening.mode))
    | none =>
      setContents path []
      return .ok (← add (.file path 0 opening.mode))

end System
end Directives
