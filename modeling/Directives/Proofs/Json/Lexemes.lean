import Directives.Json.Read
import Directives.Json.Write
import Mathlib.Tactic.SplitIfs

/-! The lexemes of compact JSON.

A string is read back from its escapes (`string?_flatMap`), an integer of 64 bits from
its digits (`read?_int`), each whatever follows as long as it does not go on with the
digits. A value is written lexeme by lexeme, and that is how its text is cut
(`lexed_compact`). -/
namespace Directives

/-! ### Integers -/

namespace Decimal

/-- A text that does not go on with a number in front of it. -/
def Ends (rest : Text) : Prop :=
  ∀ c ∈ rest.head?, c.isDigit = false ∧ c ≠ '.' ∧ c ≠ 'e' ∧ c ≠ 'E'

theorem ends_nil : Ends [] := nofun

theorem ends_cons {c : Char} (h : c.isDigit = false ∧ c ≠ '.' ∧ c ≠ 'e' ∧ c ≠ 'E') (s : Text) :
    Ends (c :: s) := by
  intro d hd
  cases hd
  exact h

theorem digits?_append {ds rest : Text} (hne : ds ≠ []) (hds : ∀ c ∈ ds, c.isDigit = true)
    (hrest : Ends rest) : digits? (ds ++ rest) = some (ds, rest) := by
  have hstop : rest.takeWhile Char.isDigit = [] ∧ rest.dropWhile Char.isDigit = rest := by
    cases rest with
    | nil => exact ⟨rfl, rfl⟩
    | cons c rest => simp [(hrest c rfl).1]
  have htake : (ds ++ rest).takeWhile Char.isDigit = ds := by
    rw [List.takeWhile_append_of_pos hds, hstop.1, List.append_nil]
  have hdrop : (ds ++ rest).dropWhile Char.isDigit = rest := by
    rw [List.dropWhile_append_of_pos hds, hstop.2]
  rw [digits?, htake, hdrop]
  cases ds with
  | nil => exact absurd rfl hne
  | cons d ds => rfl

theorem ofNat_ne_nil (n : Nat) : Text.ofNat n ≠ [] :=
  Nat.toDigits_ne_nil

theorem isDigit_of_mem_ofNat {n : Nat} {c : Char} (h : c ∈ Text.ofNat n) : c.isDigit = true :=
  Nat.isDigit_of_mem_toDigits (by decide) (by decide) h

theorem int_ne_nil (n : Int) : Write.int n ≠ [] := by
  unfold Write.int
  split
  · exact List.cons_ne_nil _ _
  · exact ofNat_ne_nil _

/-- An integer is written with digits and a sign. -/
theorem digit_or_minus_of_mem_int {n : Int} {c : Char} (h : c ∈ Write.int n) :
    c.isDigit = true ∨ c = '-' := by
  unfold Write.int at h
  split at h
  · rcases List.mem_cons.mp h with rfl | h
    · exact .inr rfl
    · exact .inl (isDigit_of_mem_ofNat h)
  · exact .inl (isDigit_of_mem_ofNat h)

/-- Only zero is written with a zero in front. -/
theorem head?_ofNat {n : Nat} (hn : 0 < n) : (Text.ofNat n).head? ≠ some '0' := by
  unfold Text.ofNat
  induction n using Nat.strongRecOn with
  | ind n ih =>
    by_cases h : n < 10
    · rw [Nat.toDigits_of_lt_base h]
      intro hzero
      have : n = 0 := Nat.digitChar_eq_zero.mp (Option.some.inj hzero)
      omega
    · have hdigits := Nat.toDigits_of_base_le (b := 10) (n := n) (by decide) (by omega)
      have hfront := ih (n / 10) (by omega) (by omega)
      obtain ⟨c, front, hc⟩ := List.exists_cons_of_ne_nil (Nat.toDigits_ne_nil (n := n / 10) (b := 10))
      rw [hc] at hfront
      rwa [hdigits, hc]

theorem whole?_ofNat {rest : Text} (n : Nat) (hrest : Ends rest) :
    whole? (Text.ofNat n ++ rest) = some (Text.ofNat n, rest) := by
  have hdigits : digits? (Text.ofNat n ++ rest) = some (Text.ofNat n, rest) :=
    digits?_append (ofNat_ne_nil n) (fun c hc => isDigit_of_mem_ofNat hc) hrest
  have hplain : ¬ ((Text.ofNat n).head? = some '0' ∧ (Text.ofNat n).length ≠ 1) := by
    rintro ⟨hzero, hlength⟩
    rcases Nat.eq_zero_or_pos n with rfl | hn
    · exact hlength rfl
    · exact head?_ofNat hn hzero
  simp only [whole?, hdigits, Option.bind_eq_bind, Option.bind_some]
  rw [if_neg (by simpa using hplain)]

/-- Digits whose number fits are all taken. -/
theorem significand_eq {m : Nat} {ds : Text} (h : Nat.ofDigitChars 10 ds m ≤ greatestSignificand) :
    significand m ds = (Nat.ofDigitChars 10 ds m, []) := by
  induction ds generalizing m with
  | nil => rfl
  | cons d ds ih =>
    have hnext : m * 10 + digitValue d = 10 * m + (d.toNat - '0'.toNat) := by
      rw [Nat.mul_comm]
      rfl
    rw [Nat.ofDigitChars_cons] at h ⊢
    have hgrows : 10 * m + (d.toNat - '0'.toNat) ≤
        Nat.ofDigitChars 10 ds (10 * m + (d.toNat - '0'.toNat)) := by
      rw [Nat.ofDigitChars_eq_ofDigitChars_zero]
      exact Nat.le_trans (Nat.le_mul_of_pos_left _ (Nat.pow_pos (by decide))) (Nat.le_add_right ..)
    rw [significand]
    simp only [hnext]
    rw [if_pos (Nat.le_trans hgrows h), ih h]

theorem number?_ofNat {negative : Bool} {n : Nat} {number : Number} (hn : n ≤ greatestSignificand)
    (h : Written.int? negative n = some number) :
    Written.number? ⟨negative, Text.ofNat n, none, none⟩ = some number := by
  have hdigits : Nat.ofDigitChars 10 (Text.ofNat n) 0 = n := Nat.ofDigitChars_ten_toDigits
  have hvalue : significand 0 (Text.ofNat n) = (n, []) := by
    rw [significand_eq (hdigits.symm ▸ hn), hdigits]
  simp [Written.number?, hvalue, h]

/-- The number behind its sign, and what follows it. -/
def unsigned? (negative : Bool) (s : Text) : Option (Number × Text) := do
  let (whole, rest) ← whole? s
  let (fraction, rest) ← fraction? rest
  let (exponent, rest) ← exponent? rest
  let number ← (Written.mk negative whole fraction exponent).number?
  some (number, rest)

theorem read?_minus (s : Text) : read? ('-' :: s) = unsigned? true s := rfl

theorem read?_of_ne {c : Char} (hc : c ≠ '-') (s : Text) : read? (c :: s) = unsigned? false (c :: s) := by
  unfold read?
  split
  next negative rest hsign =>
    split at hsign
    next hminus => exact absurd (List.cons.inj hminus).1 hc
    next =>
      cases hsign
      rfl

/-- The digits of a number that stays an integer are read up to what follows them. -/
theorem unsigned?_ofNat {negative : Bool} {n : Nat} {number : Number} {rest : Text} (hrest : Ends rest)
    (hn : n ≤ greatestSignificand) (h : Written.int? negative n = some number) :
    unsigned? negative (Text.ofNat n ++ rest) = some (number, rest) := by
  have hfraction : fraction? rest = some (none, rest) := by
    unfold fraction?
    split
    next => exact absurd rfl (hrest '.' rfl).2.1
    next => rfl
  have hexponent : exponent? rest = some (none, rest) := by
    cases rest with
    | nil => rfl
    | cons c rest =>
      have hc := hrest c rfl
      simp [exponent?, hc.2.2.1, hc.2.2.2]
  simp only [unsigned?, whole?_ofNat n hrest, hfraction, hexponent, number?_ofNat hn h,
    Option.bind_eq_bind, Option.bind_some]

/-- An integer of 64 bits, signed or not. -/
def IsWord (n : Int) : Prop :=
  -(Nat.pow 2 63 : Nat) ≤ n ∧ n < (Nat.pow 2 64 : Nat)

/-- An integer of 64 bits is read as it was written. -/
theorem read?_int {n : Int} (hword : IsWord n) {rest : Text} (hrest : Ends rest) :
    read? (Write.int n ++ rest) = some (.int n, rest) := by
  obtain ⟨hleast, hmost⟩ := hword
  have hpow : Nat.pow 2 63 = 2 ^ 63 := rfl
  have hdouble : Nat.pow 2 64 = 2 ^ 64 := rfl
  have hgreatest : greatestSignificand = 2 ^ 64 - 1 := rfl
  by_cases h : n < 0
  · have hint : Written.int? true n.natAbs = some (.int n) := by
      have hrange : 0 < n.natAbs ∧ n.natAbs ≤ Nat.pow 2 63 := by omega
      rw [Written.int?, if_neg (by decide), if_pos (by simpa using hrange),
        show -(n.natAbs : Int) = n by omega]
    rw [Write.int, if_pos h, List.cons_append, read?_minus, unsigned?_ofNat hrest (by omega) hint]
  · have hint : Written.int? false n.natAbs = some (.int n) := by
      rw [Written.int?, if_pos (by decide), show (n.natAbs : Int) = n by omega]
    obtain ⟨c, t, hct⟩ := List.exists_cons_of_ne_nil (ofNat_ne_nil n.natAbs)
    have hne : c ≠ '-' := by
      rintro rfl
      exact absurd (isDigit_of_mem_ofNat (hct ▸ List.mem_cons_self ..)) (by decide)
    have hread := unsigned?_ofNat hrest (by omega) hint
    rw [hct, List.cons_append, ← read?_of_ne hne, ← List.cons_append, ← hct] at hread
    rwa [Write.int, if_neg h]

end Decimal

namespace Read

/-! ### Strings -/

theorem hexValue?_hexDigit {n : Nat} (h : n < 16) : hexValue? (Write.hexDigit n) = some n :=
  (by decide : ∀ n : Fin 16, hexValue? (Write.hexDigit n) = some n.val) ⟨n, h⟩

/-- A control character is read from its code unit. -/
theorem unicodeEscape?_control {c : Char} (h : c.toNat < 0x20) (rest : Text) :
    unicodeEscape? ('0' :: '0' :: Write.hexDigit (c.toNat / 16) :: Write.hexDigit (c.toNat % 16) :: rest) =
      some (c, rest) := by
  have hunit : unit? ('0' :: '0' :: Write.hexDigit (c.toNat / 16) :: Write.hexDigit (c.toNat % 16) :: rest) =
      some (c.toNat, rest) := by
    have hzero : hexValue? '0' = some 0 := by decide
    have hvalue : ((0 * 16 + 0) * 16 + c.toNat / 16) * 16 + c.toNat % 16 = c.toNat := by omega
    simp only [unit?, hzero, hexValue?_hexDigit (show c.toNat / 16 < 16 by omega),
      hexValue?_hexDigit (show c.toNat % 16 < 16 by omega), Option.bind_eq_bind, Option.bind_some, hvalue]
  have hplain : ofUnit? c.toNat = some c := by
    have hrange : ¬ (0xD800 ≤ c.toNat ∧ c.toNat ≤ 0xDFFF) := by omega
    rw [ofUnit?, if_neg (by simpa using hrange), Char.ofNat_toNat]
  simp only [unicodeEscape?, hunit, hplain, Option.bind_some]

/-- Whatever follows, a character is read from what it is written as. -/
theorem char?_escaped (c : Char) (rest : Text) : char? (Write.escaped c ++ rest) = some (c, rest) := by
  unfold Write.escaped
  split_ifs with hquote hbackslash hb hf hn hr ht hcontrol
  -- the seven characters with a short escape, then those with a code unit, then those that stand as they are
  iterate 7 (subst c; rfl)
  · exact unicodeEscape?_control hcontrol rest
  · simp [char?, hbackslash, hquote, Nat.not_lt.mp hcontrol]

theorem string?_of_char? {s rest cs last : Text} {c : Char} (hchar : char? s = some (c, rest))
    (hrest : string? rest = some (cs, last)) : string? s = some (c :: cs, last) := by
  rw [string?]
  split
  next hread =>
    rw [hchar] at hread
    cases hread
    rw [hrest]
    rfl
  next hnone =>
    rw [hchar] at hnone
    cases hnone

theorem string?_quote (rest : Text) : string? ('"' :: rest) = some ([], rest) := by
  rw [string?]
  rfl

/-- A string is read up to its closing quote, whatever characters it has. -/
theorem string?_flatMap (s rest : Text) :
    string? (s.flatMap Write.escaped ++ '"' :: rest) = some (s, rest) := by
  induction s with
  | nil => exact string?_quote rest
  | cons c s ih =>
    rw [List.flatMap_cons, List.append_assoc]
    exact string?_of_char? (char?_escaped c _) ih

/-! ### Lexemes -/

/-- The text is cut into these lexemes, with as many tries as it has characters or more. -/
def Lexed (s : Text) (lexemes : List Lexeme) : Prop :=
  ∀ tries, s.length ≤ tries → lexemes? tries s = some lexemes

theorem lexed_nil : Lexed [] [] := by
  intro tries _
  unfold lexemes?
  rfl

theorem Lexed.cons {c : Char} {t rest : Text} {l : Lexeme} {lexemes : List Lexeme}
    (hc : isSpace c = false) (h : lexeme? (c :: (t ++ rest)) = some (l, rest))
    (hrest : Lexed rest lexemes) : Lexed (c :: (t ++ rest)) (l :: lexemes) := by
  intro tries htries
  rw [List.length_cons, List.length_append] at htries
  obtain ⟨tries, rfl⟩ : ∃ n, tries = n + 1 := ⟨tries - 1, by omega⟩
  unfold lexemes?
  rw [List.dropWhile_cons_of_neg (by simp [hc])]
  simp only [h, hrest tries (by omega), Option.bind_eq_bind, Option.bind_some]

theorem not_space_of_scalar {c : Char} (hc : c.isDigit = true ∨ c = '-') : isSpace c = false := by
  cases h : isSpace c with
  | false => rfl
  | true =>
    simp only [isSpace, Bool.or_eq_true, beq_iff_eq] at h
    rcases h with ((rfl | rfl) | rfl) | rfl <;> exact absurd hc (by decide)

theorem lexeme?_of_scalar {c : Char} (hc : c.isDigit = true ∨ c = '-') (s : Text) :
    lexeme? (c :: s) = (Decimal.read? (c :: s)).map fun (n, rest) => (.scalar (.number n), rest) := by
  unfold lexeme?
  split
  case h_11 => rfl
  all_goals
    next heq =>
      rw [(List.cons.inj heq).1] at hc
      exact absurd hc (by decide)

end Read

/-! ### Values -/

namespace Value

mutual

/-- The property holds of the value and of all values in it. -/
def All (p : Value → Prop) : Value → Prop
  | .array items => p (.array items) ∧ AllItems p items
  | .object members => p (.object members) ∧ AllMembers p members
  | v => p v

/-- The property holds of the items and of all values in them. -/
def AllItems (p : Value → Prop) : List Value → Prop
  | [] => True
  | v :: items => v.All p ∧ AllItems p items

/-- The property holds of the members' values and of all values in them. -/
def AllMembers (p : Value → Prop) : List (Text × Value) → Prop
  | [] => True
  | (_, v) :: members => v.All p ∧ AllMembers p members

end

/-- If the value is a number, it is an integer of 64 bits. -/
def IsInteger (v : Value) : Prop :=
  ∀ number, v = .number number → ∃ n : Int, number = .int n ∧ Decimal.IsWord n

/-- All numbers in the value are integers of 64 bits. -/
def Integral (v : Value) : Prop :=
  v.All IsInteger

open Read (Lexeme)

mutual

/-- The lexemes that a value is written in. -/
def lexemes : Value → List Lexeme
  | .array items => .openArray :: (itemLexemes items ++ [.closeArray])
  | .object members => .openObject :: (memberLexemes members ++ [.closeObject])
  | .text s => [.string s]
  | v => [.scalar v]

/-- The lexemes of items with commas between them. -/
def itemLexemes : List Value → List Lexeme
  | [] => []
  | [v] => v.lexemes
  | v :: w :: rest => v.lexemes ++ .comma :: itemLexemes (w :: rest)

/-- The lexemes of members with commas between them. -/
def memberLexemes : List (Text × Value) → List Lexeme
  | [] => []
  | [(k, v)] => .string k :: .colon :: v.lexemes
  | (k, v) :: m :: rest => .string k :: .colon :: (v.lexemes ++ .comma :: memberLexemes (m :: rest))

end

end Value

namespace Read

theorem lexed_string (s : Text) {rest : Text} {ls : List Lexeme} (h : Lexed rest ls) :
    Lexed (Write.string s ++ rest) (.string s :: ls) := by
  have hread : lexeme? ('"' :: ((s.flatMap Write.escaped ++ ['"']) ++ rest)) = some (.string s, rest) := by
    rw [List.append_assoc, List.singleton_append]
    show (string? (s.flatMap Write.escaped ++ '"' :: rest)).map _ = _
    rw [string?_flatMap]
    rfl
  exact h.cons (by decide) hread

theorem lexed_int {n : Int} (hword : Decimal.IsWord n) {rest : Text} {ls : List Lexeme}
    (hends : Decimal.Ends rest) (h : Lexed rest ls) :
    Lexed (Write.int n ++ rest) (.scalar (.number (.int n)) :: ls) := by
  have hread := Decimal.read?_int hword hends
  obtain ⟨c, t, hct⟩ := List.exists_cons_of_ne_nil (Decimal.int_ne_nil n)
  have hc := Decimal.digit_or_minus_of_mem_int (n := n) (hct ▸ List.mem_cons_self ..)
  rw [hct, List.cons_append] at hread ⊢
  refine h.cons (not_space_of_scalar hc) ?_
  rw [lexeme?_of_scalar hc, hread]
  rfl

/-- A one-character lexeme. -/
theorem Lexed.mark {c : Char} {l : Lexeme} {rest : Text} {ls : List Lexeme} (hc : isSpace c = false)
    (hl : lexeme? (c :: rest) = some (l, rest)) (h : Lexed rest ls) : Lexed (c :: rest) (l :: ls) :=
  h.cons (t := []) hc hl

mutual

/-- A value is cut into its lexemes, whatever follows that does not go on with a number. -/
theorem lexed_compact : ∀ (v : Value) {rest : Text} {ls : List Lexeme}, v.Integral → Decimal.Ends rest →
    Lexed rest ls → Lexed (v.compact ++ rest) (v.lexemes ++ ls)
  | .null, rest, ls, _, _, h => h.cons (t := ['u', 'l', 'l']) (by decide) rfl
  | .bool true, rest, ls, _, _, h => h.cons (t := ['r', 'u', 'e']) (by decide) rfl
  | .bool false, rest, ls, _, _, h => h.cons (t := ['a', 'l', 's', 'e']) (by decide) rfl
  | .number number, rest, ls, hv, hends, h => by
    obtain ⟨n, rfl, hword⟩ := hv number rfl
    exact lexed_int hword hends h
  | .text s, rest, ls, _, _, h => lexed_string s h
  | .array items, rest, ls, hv, _, h => by
    have hclose : Lexed (']' :: rest) (.closeArray :: ls) := h.mark (by decide) rfl
    have hitems := lexed_items items hv.2 (Decimal.ends_cons (by decide) rest) hclose
    have hopen := hitems.mark (c := '[') (l := .openArray) (by decide) rfl
    simpa [Value.compact, Value.lexemes] using hopen
  | .object members, rest, ls, hv, _, h => by
    have hclose : Lexed ('}' :: rest) (.closeObject :: ls) := h.mark (by decide) rfl
    have hmembers := lexed_members members hv.2 (Decimal.ends_cons (by decide) rest) hclose
    have hopen := hmembers.mark (c := '{') (l := .openObject) (by decide) rfl
    simpa [Value.compact, Value.lexemes] using hopen

theorem lexed_items : ∀ (items : List Value) {rest : Text} {ls : List Lexeme},
    Value.AllItems Value.IsInteger items → Decimal.Ends rest → Lexed rest ls →
      Lexed (Value.compactItems items ++ rest) (Value.itemLexemes items ++ ls)
  | [], _, _, _, _, h => h
  | [v], _, _, hitems, hends, h => lexed_compact v hitems.1 hends h
  | v :: w :: items, rest, ls, hitems, hends, h => by
    have hcomma := (lexed_items (w :: items) hitems.2 hends h).mark (c := ',') (l := .comma) (by decide) rfl
    have hfirst := lexed_compact v hitems.1 (Decimal.ends_cons (by decide) _) hcomma
    simpa [Value.compactItems, Value.itemLexemes] using hfirst

theorem lexed_members : ∀ (members : List (Text × Value)) {rest : Text} {ls : List Lexeme},
    Value.AllMembers Value.IsInteger members → Decimal.Ends rest → Lexed rest ls →
      Lexed (Value.compactMembers members ++ rest) (Value.memberLexemes members ++ ls)
  | [], _, _, _, _, h => h
  | [(k, v)], rest, ls, hmembers, hends, h => by
    have hcolon := (lexed_compact v hmembers.1 hends h).mark (c := ':') (l := .colon) (by decide) rfl
    simpa [Value.compactMembers, Value.memberLexemes] using lexed_string k hcolon
  | (k, v) :: m :: members, rest, ls, hmembers, hends, h => by
    have hcomma := (lexed_members (m :: members) hmembers.2 hends h).mark (c := ',') (l := .comma) (by decide) rfl
    have hvalue := lexed_compact v hmembers.1 (Decimal.ends_cons (by decide) _) hcomma
    have hcolon := hvalue.mark (c := ':') (l := .colon) (by decide) rfl
    simpa [Value.compactMembers, Value.memberLexemes] using lexed_string k hcolon

end

end Read
end Directives
