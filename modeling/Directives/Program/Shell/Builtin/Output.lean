import Directives.Program.Format.Printing
import Directives.Program.Shell.Builtin.Basic

/-! `echo` and `printf` as a shell has them. -/
namespace Directives.Program.Shell.Builtin
open Run

/-- The character that an escape stands for whose backslash is passed, and what follows. A
backslash that begins no escape stands for itself. -/
def escape (s : Text) : Char × Text :=
  match s with
  | [] => ('\\', [])
  | c :: rest =>
    if Octets.isOctalDigit c then
      let (digits, rest) := Octets.digits 8 3 s
      (Char.ofNat (Octets.number 8 digits % 256), rest)
    else if c = '\\' then ('\\', rest)
    else if c = 'e' then ('\x1b', rest)
    else match controlOf? c with
      | some control => (control, rest)
      | none => ('\\', s)

/-- A text with its escapes resolved, and whether one of them ends all output; in at most `tries`
steps. -/
def unescapedIn : Nat → Text → Text × Bool
  | _ + 1, '\\' :: 'c' :: _ => ([], true)
  | tries + 1, '\\' :: rest =>
    let rest := match rest with
      | '0' :: d :: more => if Octets.isOctalDigit d then d :: more else rest
      | _ => rest
    let (c, rest) := escape rest
    let (text, ends) := unescapedIn tries rest
    (c :: text, ends)
  | tries + 1, c :: rest =>
    let (text, ends) := unescapedIn tries rest
    (c :: text, ends)
  | _, _ => ([], false)

/-- A text with its escapes resolved, and whether one of them ends all output. -/
def unescaped (s : Text) : Text × Bool :=
  unescapedIn s.length s

/-- The arguments with spaces between them; a line feed behind unless the first one says no. -/
def echo (args : List Text) : Run Nat := do
  let (isOpen, args) := match args with
    | ['-', 'n'] :: args => (true, args)
    | args => (false, args)
  let shown := args.map unescaped
  match shown.findIdx? (·.2) with
  | some i => emit (Text.joined [' '] ((shown.take (i + 1)).map (·.1)))
  | none => emit (Text.joined [' '] (shown.map (·.1)) ++ (if isOpen then [] else ['\n']))
  return 0

/-- Arguments that are still to be laid out. -/
abbrev Printer := StateT (List Text) Printing

/-- The next argument, if there is one. -/
def next? : Printer (Option Text) :=
  modifyGet fun args => (args.head?, args.tail)

/-- A number: the code of the character behind a quote, or what `read` reads. -/
def valueOf (ofByte : Nat → α) (read : Text → Program.Reading α) : Printer α := do
  let some arg ← next? | return ofByte 0
  if arg.head? = some '"' || arg.head? = some '\'' then
    return ofByte ((arg.tail.head?.map Char.toNat).getD 0)
  let reading := read arg
  if !reading.rest.isEmpty then
    if reading.rest.length = arg.length then
      Printing.blame (arg ++ ": expected numeric value")
    else Printing.blame (arg ++ ": not completely converted")
  else if reading.outOfRange then
    Printing.blame (arg ++ ": Numerical result out of range")
  return reading.value

/-- A width or a precision, and what follows it. -/
def measure (s : Text) : Printer (Int × Text) := do
  match s with
  | '*' :: rest => return (← valueOf Int.ofNat Integer.signed, rest)
  | _ =>
    let (digits, rest) := Octets.digits 10 s.length s
    return (Octets.number 10 digits, rest)

/-- Write what a conversion makes of the next arguments; whether that ends all output. -/
def convert (layout : Layout) (letter : Char) (directive : Text) : Printer Bool := do
  if letter = 'b' then
    let (text, ends) := unescaped ((← next?).getD [])
    Printing.emit (layout.text text)
    return ends
  if letter = 's' then Printing.emit (layout.text ((← next?).getD []))
  else if letter = 'c' then
    let c := ((← next?).getD []).headD '\x00'
    Printing.emit ({ layout with precision := none }.text [c])
  else if letter = 'd' || letter = 'i' then
    Printing.emit (layout.signed (← valueOf Int.ofNat Integer.signed))
  else if "ouxX".toList.contains letter then
    Printing.emit (layout.unsigned letter (← valueOf id Integer.unsigned))
  else if "aAeEfFgG".toList.contains letter then
    let ofByte (n : Nat) : Real := (Precision.double.ofRatio false n 1).1
    Printing.emit (layout.real .double letter (← valueOf ofByte (Real.read .double)))
  else Printing.fail 2 (directive ++ ": invalid directive")
  return false

/-- Write what a directive asks for whose percent sign is passed. Answer what follows it, and
whether that is still to be written. -/
def directive (s : Text) : Printer (Text × Bool) := do
  let flags := s.takeWhile "#-+ 0".toList.contains
  let layout := flags.foldl (fun l c => (l.flag? c).getD l) ({} : Layout)
  let (width, rest) ← measure (s.drop flags.length)
  let layout := layout.withWidth width
  let (layout, rest) ← match rest with
    | '.' :: rest => do
      let (precision, rest) ← measure rest
      pure (layout.withPrecision precision, rest)
    | _ => pure (layout, rest)
  match rest with
  | [] => Printing.fail 2 "missing format character"
  | letter :: behind =>
    let ends ← convert layout letter ('%' :: s.take (s.length - behind.length))
    return (behind, !ends)

/-- One pass through a format in at most `tries` steps; whether there may be another one. -/
def pass : Nat → Text → Printer Bool
  | tries + 1, '%' :: '%' :: rest => do
    Printing.emit ['%']
    pass tries rest
  | tries + 1, '%' :: rest => do
    let (rest, goesOn) ← directive rest
    if goesOn then pass tries rest else return false
  | tries + 1, '\\' :: rest => do
    let (c, rest) := escape rest
    Printing.emit [c]
    pass tries rest
  | tries + 1, c :: rest => do
    Printing.emit [c]
    pass tries rest
  | _, _ => return true

/-- A format over and over as long as it takes arguments, in at most `tries` passes. -/
def passes (format : Text) : Nat → Printer Unit
  | 0 => return ()
  | tries + 1 => do
    let before := (← get).length
    let goesOn ← pass format.length format
    let left := (← get).length
    if goesOn && 0 < left && left < before then passes format tries

/-- Arguments laid out by a format. -/
def printf (args : List Text) : Run Nat := do
  match ← operands args with
  | [] => fail "usage: printf format [arg ...]"
  | format :: args =>
    let progress := Printing.run do
      discard ((passes format (args.length + 1)).run args)
    for message in progress.messages.reverse do warn message
    emit progress.output
    if progress.status = 2 then
      change fun s => { s with status := 2 }
      throw .failed
    return progress.status

end Directives.Program.Shell.Builtin
