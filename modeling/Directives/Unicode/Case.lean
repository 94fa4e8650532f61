import Directives.Unicode.CaseTables

/-! Upper and lower case.

Each character is mapped by itself, with one exception: the capital sigma is lowered
to the final sigma at the end of a word, that is behind a cased character and not in
front of one, case-ignorable characters left out of account. -/
namespace Directives.Unicode

/-- The mapped code point, if one of the ascending shifts covers `n`. -/
def shifted? (n : Nat) : List Shift → Option Nat
  | [] => none
  | s :: shifts =>
    if n < s.first then none
    else if n ≤ s.last && (n - s.first) % s.step == 0 then some ((n : Int) + s.distance).toNat
    else shifted? n shifts

/-- The mapping of one character. -/
def mapChar (shifts : List Shift) (expansions : List (Nat × List Nat)) (c : Char) : Text :=
  match shifted? c.toNat shifts with
  | some n => [Char.ofNat n]
  | none =>
    match expansions.lookup c.toNat with
    | some ns => ns.map Char.ofNat
    | none => [c]

/-- The upper-case form of a character. -/
def upperChar (c : Char) : Text :=
  mapChar upperShifts upperExpansions c

/-- The lower-case form of a character that stands alone. -/
def lowerChar (c : Char) : Text :=
  mapChar lowerShifts lowerExpansions c

/-- The text in upper case. -/
def upper (s : Text) : Text :=
  s.flatMap upperChar

/-- Whether a cased character comes first, case-ignorable ones left out. -/
def cased (s : Text) : Bool :=
  match s.dropWhile caseIgnorableRanges.has with
  | c :: _ => casedRanges.has c
  | [] => false

/-- The text in lower case, `before` being the characters in front of it, the last first. -/
def lowerAfter (before : Text) : Text → Text
  | [] => []
  | c :: cs =>
    let lowered :=
      if c = 'Σ' then (if cased before && !cased cs then ['ς'] else ['σ']) else lowerChar c
    lowered ++ lowerAfter (c :: before) cs

/-- The text in lower case. -/
def lower (s : Text) : Text :=
  lowerAfter [] s

end Directives.Unicode
