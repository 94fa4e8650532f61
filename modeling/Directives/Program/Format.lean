import Directives.Program.Basic
import Directives.Program.Format.Printing

/-! `printf`: arguments laid out by a format.

The format is used again as long as arguments are left and it takes any. Where the
arguments run out the empty text and zero stand in. -/
namespace Directives.Program.Format
open Printing

/-- A character by its code point: only ASCII has a form of its own. -/
def codePoint (n : Nat) : Text :=
  let hex := (Nat.toDigits 16 n).map Char.toUpper
  if n < 128 then [Char.ofNat n]
  else if n < 65536 then "\\u" ++ List.replicate (4 - hex.length) '0' ++ hex
  else "\\U" ++ List.replicate (8 - hex.length) '0' ++ hex

/-- Hexadecimal digits of a code point, `count` of them. -/
def universal (letter : Char) (count : Nat) (s : Text) : Printing Text := do
  let (digits, rest) := Octets.digits 16 count s
  if digits.length < count then fail 1 "missing hexadecimal number in escape"
  let n := Octets.number 16 digits
  if 0xD800 ≤ n && n ≤ 0xDFFF then
    fail 1 ("invalid universal character name \\" ++ letter :: digits.map Char.toLower)
  emit (codePoint n)
  return rest

/-- How escapes are read. -/
structure Escapes where
  /-- A zero may stand in front of three octal digits. -/
  zeroLed : Bool
  /-- There are code points, and an escape that needs digits has to have them. -/
  strict : Bool

/-- Write what an escape stands for whose backslash is passed, and answer what follows it. -/
def escape (mode : Escapes) (s : Text) : Printing Text := do
  match s with
  | [] =>
    emit ['\\']
    return []
  | c :: rest =>
    if c = 'x' then
      let (digits, rest) := Octets.digits 16 2 rest
      if digits.isEmpty && mode.strict then fail 1 "missing hexadecimal number in escape"
      emit (if digits.isEmpty then ['\\', 'x'] else [Char.ofNat (Octets.number 16 digits)])
      return rest
    else if Octets.isOctalDigit c then
      let (digits, rest) := Octets.digits 8 3 (if mode.zeroLed && c = '0' then rest else s)
      emit [Char.ofNat (Octets.number 8 digits % 256)]
      return rest
    else if c = 'c' then stop 0
    else if c = 'e' then
      emit ['\x1b']
      return rest
    else if c = 'u' && mode.strict then universal c 4 rest
    else if c = 'U' && mode.strict then universal c 8 rest
    else
      emit (match controlOf? c with
        | some control => [control]
        | none => if c = '"' || c = '\\' then [c] else ['\\', c])
      return rest

/-- Write a text with its escapes resolved, in at most `tries` steps. -/
def unescaped (strict : Bool) : Nat → Text → Printing Unit
  | tries + 1, '\\' :: rest => do unescaped strict tries (← escape ⟨true, strict⟩ rest)
  | tries + 1, c :: rest => do
    emit [c]
    unescaped strict tries rest
  | _, _ => pure ()

/-- The value of an argument: the code of the character behind a quote, or what `read` reads. -/
def value (ofByte : Nat → α) (read : Text → Reading α) (arg : Text) : Printing α := do
  match arg with
  | quote :: c :: more =>
    if quote = '"' || quote = '\'' then
      if !more.isEmpty then
        warn ("warning: " ++ more ++
          ": character(s) following character constant have been ignored")
      return ofByte c.toNat
    else checked
  | _ => checked
where
  /-- What `read` reads, and what is wrong with it. -/
  checked : Printing α := do
    let reading := read arg
    if reading.outOfRange then blame (quote arg ++ ": Numerical result out of range")
    else if !reading.rest.isEmpty then
      if reading.rest.length = arg.length then blame (quote arg ++ ": expected a numeric value")
      else blame (quote arg ++ ": value not completely converted")
    return reading.value

/-- The bound of a width and of a precision. -/
def greatestWidth : Int := 2147483647

/-- A width or a precision: digits, or a star for an argument. -/
def measure (what : Text) (least : Int) (s : Text) (args : List Text) :
    Printing (Int × Text × List Text) := do
  match s with
  | '*' :: rest =>
    match args with
    | [] => return (0, rest, [])
    | arg :: args =>
      let n ← value Int.ofNat Integer.signed arg
      if n < least || greatestWidth < n then fail 1 ("invalid " ++ what ++ ": " ++ quote arg)
      return (n, rest, args)
  | _ =>
    let (digits, rest) := Octets.digits 10 s.length s
    return (Octets.number 10 digits, rest, args)

/-- Whether a conversion goes together with flags and a precision. -/
def isKnown (flags : Text) (hasPrecision : Bool) (letter : Char) : Bool :=
  "aAcdeEfFgGiosuxX".toList.contains letter &&
    !(flags.any "'I".toList.contains && "aAceEosxX".toList.contains letter) &&
    !(flags.contains '#' && "cdisu".toList.contains letter) &&
    !(flags.contains '0' && "cs".toList.contains letter) &&
    !(hasPrecision && letter = 'c')

/-- Write an argument by a conversion. -/
def convert (l : Layout) (letter : Char) (arg : Text) : Printing Unit := do
  if letter = 's' then emit (l.text arg)
  else if letter = 'c' then emit (l.text [arg.headD '\x00'])
  else if letter = 'd' || letter = 'i' then
    emit (l.signed (← value Int.ofNat Integer.signed arg))
  else if "ouxX".toList.contains letter then
    emit (l.unsigned letter (← value id Integer.unsigned arg))
  else
    let ofByte (n : Nat) : Real := (Precision.extended.ofRatio false n 1).1
    emit (l.real .extended letter (← value ofByte (Real.read .extended) arg))

/-- Write what a directive asks for whose percent sign is passed, and answer what follows it and
the arguments left. -/
def directive (s : Text) (args : List Text) : Printing (Text × List Text) := do
  let flags := s.takeWhile "I'-+ #0".toList.contains
  let layout := flags.foldl (fun l c => (l.flag? c).getD l) ({} : Layout)
  let (width, rest, args) ←
    measure "field width" (-greatestWidth - 1) (s.drop flags.length) args
  let layout := layout.withWidth width
  let (layout, rest, args) ← match rest with
    | '.' :: rest => do
      let (precision, rest, args) ← measure "precision" Integer.least rest args
      pure (layout.withPrecision precision, rest, args)
    | _ => pure (layout, rest, args)
  let hasPrecision := (s.take (s.length - rest.length)).contains '.'
  let rest := rest.dropWhile "lLhjtz".toList.contains
  match rest with
  | letter :: rest =>
    if !isKnown flags hasPrecision letter then
      fail 1 ('%' :: s.take (s.length - rest.length) ++ ": invalid conversion specification")
    convert layout letter (args.headD [])
    return (rest, args.tail)
  | [] => fail 1 ('%' :: s ++ ": invalid conversion specification")

/-- One pass through a format in at most `tries` steps, and the arguments left. -/
def pass : Nat → Text → List Text → Printing (List Text)
  | tries + 1, '%' :: rest, args => do
    match rest, args with
    | '%' :: rest, _ =>
      emit ['%']
      pass tries rest args
    | 'b' :: rest, _ =>
      let arg := args.headD []
      unescaped true arg.length arg
      pass tries rest args.tail
    | 'q' :: rest, _ =>
      emit (args.head?.elim [] (ShellQuote.quote false))
      pass tries rest args.tail
    | _, _ =>
      let (rest, args) ← directive rest args
      pass tries rest args
  | tries + 1, '\\' :: rest, args => do pass tries (← escape ⟨false, true⟩ rest) args
  | tries + 1, c :: rest, args => do
    emit [c]
    pass tries rest args
  | _, _, args => pure args

/-- The format over and over in at most `tries` passes. -/
def passes : Nat → Text → List Text → Printing Unit
  | tries + 1, format, args => do
    let left ← pass format.length format args
    match left with
    | [] => pure ()
    | extra :: _ =>
      if left.length < args.length then passes tries format left
      else warn ("warning: ignoring excess arguments, starting with " ++ quote extra)
  | 0, _, _ => pure ()

end Format

/-- The program `printf`. -/
def printf : Behaviour := fun p => do
  if p.args = ["--help".toList] || p.args = ["--version".toList] then return .exit 0
  let args := match p.args with
    | ['-', '-'] :: args => args
    | args => args
  match args with
  | [] => p.misused "missing operand"
  | format :: args =>
    let progress := Printing.run (Format.passes (args.length + 1) format args)
    for message in progress.messages.reverse do p.complain message
    p.finish progress.status progress.output

open Printing in
/-- The arguments with spaces between them. Leading arguments of the letters `n`, `e` and `E`
are options: no line feed behind, escapes, none. -/
def echo : Behaviour := fun p => do
  if p.args = ["--help".toList] || p.args = ["--version".toList] then return .exit 0
  let isOption (arg : Text) : Bool :=
    2 ≤ arg.length && arg.head? = some '-' && arg.tail.all "neE".toList.contains
  let letters := ((p.args.takeWhile isOption).map List.tail).flatten
  let text := Text.joined [' '] (p.args.dropWhile isOption)
  let lineEnd : Text := if letters.contains 'n' then [] else ['\n']
  let escapes := (letters.reverse.find? (· ≠ 'n')) = some 'e'
  let progress := Printing.run do
    if escapes then Format.unescaped false text.length text else emit text
    emit lineEnd
  p.finish 0 progress.output

end Directives.Program
