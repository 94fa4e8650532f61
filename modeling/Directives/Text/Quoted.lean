import Directives.Unicode.Printable

/-! Quoted text in messages.

A text is shown between double quotes. The quote, the backslash, tab, line feed,
carriage return and NUL have an escape of two characters; what shows nothing of
its own, or attaches to the character in front of it, is shown as `\u` and its
code point in hexadecimal between braces. -/
namespace Directives.Text

/-- The lower-case hexadecimal digits of a number. -/
def hex (n : Nat) : Text :=
  Nat.toDigits 16 n

/-- A character as it is shown between quotes. -/
def quotedChar (c : Char) : Text :=
  if c = '"' then ['\\', '"']
  else if c = '\\' then ['\\', '\\']
  else if c = '\t' then ['\\', 't']
  else if c = '\n' then ['\\', 'n']
  else if c = '\r' then ['\\', 'r']
  else if c = '\x00' then ['\\', '0']
  else if Unicode.isGraphemeExtend c || !Unicode.isPrintable c then
    ['\\', 'u', '\x7b'] ++ hex c.toNat ++ ['\x7d']
  else [c]

/-- The text between quotes. -/
def quoted (s : Text) : Text :=
  '"' :: (s.flatMap quotedChar ++ ['"'])

end Directives.Text
