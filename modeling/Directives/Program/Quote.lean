import Directives.Program.Octets

/-! Names and arguments in messages.

An argument that a message quotes stands between single quotes, with escapes for what
does not print. The name of a file is written so that a shell reads it back: as it is
where that is safe, else between quotes of one kind or the other. -/
namespace Directives.Program

/-- A byte as a backslash and three octal digits. -/
def octalEscape (c : Char) : Text :=
  '\\' :: [c.toNat / 64, c.toNat / 8 % 8, c.toNat % 8].map Nat.digitChar

/-- The letter of a control character that has one. -/
def controlLetter? (c : Char) : Option Char :=
  if 7 ≤ c.toNat then "abtnvfr".toList[c.toNat - 7]? else none

/-- A byte that does not print as an escape. -/
def controlEscape (c : Char) : Text :=
  match controlLetter? c with
  | some letter => ['\\', letter]
  | none => octalEscape c

/-- The control character of a letter. -/
def controlOf? (letter : Char) : Option Char :=
  ("abtnvfr".toList.idxOf? letter).map fun i => Char.ofNat (i + 7)

/-- A byte between single quotes. -/
def quotedByte (c : Char) : Text :=
  if c = '\\' then ['\\', '\\']
  else if c = '\'' then ['\\', '\'']
  else if Octets.isPrint c then [c]
  else controlEscape c

/-- A text between single quotes. -/
def quote (s : Text) : Text :=
  '\'' :: (s.flatMap quotedByte ++ ['\''])

namespace ShellQuote

/-- Characters that mean something to a shell wherever they stand. -/
def special : Text := " !\"$&()*;<=>?[\\^\x60|'"

/-- Whether a text has to stand between quotes; with `colons` a colon asks for them too. -/
def isNeeded (colons : Bool) (s : Text) : Bool :=
  s = [] || s = ['\x7b'] || s = ['\x7d'] || "#~".toList.any (s.head? = some ·) ||
    s.any fun c => !Octets.isPrint c || special.contains c || (colons && c = ':')

/-- Whether a character stands for itself between double quotes too. -/
def isPlain (c : Char) : Bool :=
  c = '\'' || c = ' ' ||
    (Octets.isPrint c && !special.contains c && !"#~\x7b\x7d".toList.contains c)

/-- A text between single quotes; `escaping` says whether escapes are under way. -/
def single (escaping : Bool) : Text → Text
  | [] => ['\'']
  | c :: cs =>
    if !Octets.isPrint c then
      (if escaping then [] else ['\'', '$', '\'']) ++ controlEscape c ++ single true cs
    else if c = '\'' then "'\\''" ++ single false cs
    else (if escaping then ['\'', '\''] else []) ++ c :: single false cs

/-- A text as a shell reads it. -/
def quote (colons : Bool) (s : Text) : Text :=
  if !isNeeded colons s then s
  else if s.contains '\'' && s.all isPlain then '"' :: (s ++ ['"'])
  else '\'' :: single false s

end ShellQuote
end Directives.Program
