/-! Text as a list of characters.

What the rest of the library asks of text: its length in UTF-8 bytes, what
follows a token at its start, the pieces between separators, and an order. -/
namespace Directives

/-- Text, character by character. -/
abbrev Text := List Char

/-- A string literal stands for its characters. -/
instance : Coe String Text := ⟨String.toList⟩

namespace Text

/-- The length of the text's UTF-8 form. -/
def byteSize : Text → Nat
  | [] => 0
  | c :: cs => c.utf8Size + byteSize cs

@[simp] theorem byteSize_nil : byteSize [] = 0 := rfl

@[simp] theorem byteSize_cons (c : Char) (s : Text) :
    byteSize (c :: s) = c.utf8Size + byteSize s := rfl

@[simp] theorem byteSize_append (s t : Text) : byteSize (s ++ t) = byteSize s + byteSize t := by
  induction s with
  | nil => simp
  | cons c s ih => simp [ih, Nat.add_assoc]

/-- What follows `token` in `s`, if `s` begins with it. -/
def after? : Text → Text → Option Text
  | [], s => some s
  | _ :: _, [] => none
  | c :: token, d :: s => if c = d then after? token s else none

/-- Nothing of a text is lost to a token at its start. -/
theorem after?_eq_some_iff {token s rest : Text} :
    after? token s = some rest ↔ s = token ++ rest := by
  induction token generalizing s with
  | nil => simp [after?]
  | cons c token ih =>
    cases s with
    | nil => simp [after?]
    | cons d s =>
      by_cases h : c = d
      · simp [after?, h, ih]
      · simp [after?, h, Ne.symm h]

/-- A token at the start of a text leaves less behind it. -/
theorem length_lt_of_after? {token s rest : Text} (h : after? token s = some rest)
    (ht : token ≠ []) : rest.length < s.length := by
  have := List.length_pos_iff.2 ht
  rw [after?_eq_some_iff.1 h, List.length_append]
  omega

/-- Whether `part` occurs somewhere in the text. -/
def hasPart (part : Text) : Text → Bool
  | [] => part.isEmpty
  | c :: cs => part.isPrefixOf (c :: cs) || hasPart part cs

/-- The text with the first occurrence of `part` replaced. -/
def replaceFirst (part replacement : Text) : Text → Text
  | [] => if part.isEmpty then replacement else []
  | c :: cs =>
    match after? part (c :: cs) with
    | some rest => replacement ++ rest
    | none => c :: replaceFirst part replacement cs

/-- The pieces between the separators: one more piece than there are separators. -/
def splitOn (separator : Char) : Text → List Text
  | [] => [[]]
  | c :: cs =>
    if c = separator then [] :: splitOn separator cs
    else match splitOn separator cs with
      | [] => [[c]]
      | piece :: pieces => (c :: piece) :: pieces

/-- The pieces with `separator` between them. -/
def joined (separator : Text) : List Text → Text
  | [] => []
  | [piece] => piece
  | piece :: pieces => piece ++ separator ++ joined separator pieces

/-- The text before the first `c` and the text behind it. -/
def cutAt? (c : Char) : Text → Option (Text × Text)
  | [] => none
  | d :: rest =>
    if d = c then some ([], rest)
    else (cutAt? c rest).map fun (before, behind) => (d :: before, behind)

/-- A cut loses nothing but the character it is made at. -/
theorem eq_of_cutAt? {c : Char} {s before behind : Text} (h : cutAt? c s = some (before, behind)) :
    s = before ++ c :: behind := by
  induction s generalizing before with
  | nil => simp [cutAt?] at h
  | cons d rest ih =>
    by_cases hd : d = c
    · simp only [cutAt?, hd, if_true, Option.some.injEq, Prod.mk.injEq] at h
      obtain ⟨rfl, rfl⟩ := h
      simp [hd]
    · simp only [cutAt?, hd, if_false, Option.map_eq_some_iff, Prod.mk.injEq] at h
      obtain ⟨⟨b, e⟩, h, rfl, rfl⟩ := h
      simp [ih h]

/-- A cut leaves less on both sides. -/
theorem length_lt_of_cutAt? {c : Char} {s before behind : Text}
    (h : cutAt? c s = some (before, behind)) : behind.length < s.length := by
  rw [eq_of_cutAt? h]
  simp only [List.length_append, List.length_cons]
  omega

/-- The order of code points, which is also that of the UTF-8 bytes. -/
def le : Text → Text → Bool
  | [], _ => true
  | _ :: _, [] => false
  | c :: cs, d :: ds => c < d || (c = d && le cs ds)

/-- The text without its tab characters. -/
def withoutTabs (s : Text) : Text :=
  s.filter (· != '\t')

/-- A number in decimal digits. -/
def ofNat (n : Nat) : Text :=
  Nat.toDigits 10 n

end Text
end Directives
