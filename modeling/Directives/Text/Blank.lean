import Directives.Text.Basic

/-! White space.

White space is the Unicode property `White_Space`, 25 characters in all; `trim`
takes it off both ends of a text. -/
namespace Directives

/-- A character of the Unicode property `White_Space`. -/
def isBlank (c : Char) : Bool :=
  let n := c.toNat
  (9 ≤ n && n ≤ 13) || n == 0x20 || n == 0x85 || n == 0xA0 || n == 0x1680 ||
    (0x2000 ≤ n && n ≤ 0x200A) || n == 0x2028 || n == 0x2029 || n == 0x202F || n == 0x205F ||
    n == 0x3000

namespace Text

/-- The white space at the start. -/
def leadingBlank (s : Text) : Text :=
  s.takeWhile isBlank

/-- The text from its first character that is not white space. -/
def trimStart (s : Text) : Text :=
  s.dropWhile isBlank

@[simp] theorem leadingBlank_append_trimStart (s : Text) :
    leadingBlank s ++ trimStart s = s :=
  List.takeWhile_append_dropWhile

/-- The text up to its last character that is not white space. -/
def trimEnd : Text → Text
  | [] => []
  | c :: cs =>
    match trimEnd cs with
    | [] => if isBlank c then [] else [c]
    | kept => c :: kept

/-- The text without the white space at its ends. -/
def trim (s : Text) : Text :=
  trimEnd (trimStart s)

end Text
end Directives
