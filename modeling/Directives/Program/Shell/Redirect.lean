import Directives.Program.Shell.Expand

/-! Where commands read from and write to. -/
namespace Directives.Program.Shell
open Run

/-- A redirection whose words are expanded. -/
inductive Target where
  | file (number : Nat) (direction : Direction) (name : Text)
  /-- The same as what is open under another number; nothing closes it. -/
  | same (number : Nat) (other : Option Nat)
  | document (number : Nat) (text : Word)

/-- End because the number of a stream is none. -/
def badNumber : Run α := do
  change fun s => { s with line := s.readLine }
  fail "Syntax error: Bad fd number"

/-- Expand the words of a redirection. -/
def Redirect.expand (inner : Inner) : Redirect → Run Target
  | .file number direction name => do return .file number direction (← inner.text {} name)
  | .same number target => do
    match ← inner.text {} target with
    | ['-'] => return .same number none
    | [c] =>
      if Octets.isDigit c then return .same number (some (Octets.digitValue c)) else badNumber
    | _ => badNumber
  | .document number index => do
    return .document number (((← session).documents.lookup index).getD [])

/-- Why a file was not opened, where `missing` is said if there is none. -/
def openFault (missing : Text) : Refusal → Text
  | .missing | .notDirectory => missing
  | reason => reason.reason

/-- What stands under a number from now on. -/
def setHandle (number : Nat) (place : Option Nat) : Run Unit :=
  change fun s => s.withHandle number place

/-- Open a file, or say why that does not work. -/
def openAt (verb missing name : Text) (opening : System.Opening) : Run Nat := do
  let s ← session
  match ← onSystem (System.openFile s.directory s.handles name opening) with
  | .ok place => return place
  | .error reason => fail ("cannot " ++ verb ++ [' '] ++ name ++ ": " ++ openFault missing reason)

/-- Open a file that is to be written. -/
def openToWrite (name : Text) (opening : System.Opening) : Run Nat :=
  openAt "create" "Directory nonexistent" name opening

/-- Send a stream where it is to go. -/
def Target.perform (inner : Inner) : Target → Run Unit
  | .file number .read name => do
    setHandle number (← openAt "open" "No such file" name .toRead)
  | .file number .append name => do setHandle number (← openToWrite name .toAppend)
  | .file number .both name => do setHandle number (← openToWrite name .both)
  | .file number .overwrite name => do setHandle number (← openToWrite name .toWrite)
  | .file number .write name => do
    let s ← session
    let tree := (← get).system.tree
    if s.has 'C' then
      if let .ok (.file _) := tree.resolve s.directory (Octets.toText name) then
        fail ("cannot create " ++ name ++ ": File exists")
    setHandle number (← openToWrite name .toWrite)
  | .same number none => setHandle number none
  | .same number (some other) => do
    if number = other then return
    match (← session).handles.lookup other with
    | some place => setHandle number place
    | none => fail (Text.ofNat other ++ ": " ++ Refusal.badHandle.reason)
  | .document number text => do
    let text ← inner.text { tilde := false } text
    setHandle number (← onSystem (System.add (.source text)))

/-- Send streams where they are to go; whether that worked. -/
def performAll (inner : Inner) (targets : List Target) : Run Bool := do
  match ← observe (targets.forM (·.perform inner)) with
  | .ok () => return true
  | .error .failed => return false
  | .error stop => throw stop

/-- Do something, with all streams afterwards where they were. -/
def keepingHandles (action : Run α) : Run α := do
  let handles := (← session).handles
  andThen action (change fun s => { s with handles })

end Directives.Program.Shell
