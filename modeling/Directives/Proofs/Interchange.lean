import Directives.Builtin
import Directives.Proofs.Document
import Directives.Proofs.Json.Value
import Directives.Proofs.Parsing

/-! Values that a document passes on.

The compact text of a value has no control character in it, so that no tab is lost, and
white space at neither end, so that none is trimmed. Nor does it end like a marker in
front of a closer, and without an `@` it holds no closer. It is thus a body that a block
is read with as it was written (`tight_compact`), and what the body denotes is the value
(`Directive.exists_parse_toBlock`). -/
namespace Directives

/-! ### The characters of compact text -/

theorem isChar_of_mem_int {n : Int} {c : Char} (h : c ∈ Write.int n) : Name.isChar c = true := by
  rcases Decimal.digit_or_minus_of_mem_int h with hdigit | rfl
  · simp [Name.isChar, Name.isLetterOrDigit, hdigit]
  · decide

/-- No control characters, no tab among them. -/
def Printed (s : Text) : Prop := ∀ c ∈ s, 0x20 ≤ c.toNat

instance (s : Text) : Decidable (Printed s) :=
  decidable_of_iff (s.all (0x20 ≤ ·.toNat) = true) (by simp [Printed])

namespace Printed

theorem append {s t : Text} (hs : Printed s) (ht : Printed t) : Printed (s ++ t) :=
  List.forall_mem_append.mpr ⟨hs, ht⟩

theorem cons {c : Char} {s : Text} (hc : 0x20 ≤ c.toNat) (hs : Printed s) : Printed (c :: s) :=
  List.forall_mem_cons.mpr ⟨hc, hs⟩

/-- Text between two marks. -/
theorem between {first last : Char} {s : Text} (hfirst : 0x20 ≤ first.toNat) (hs : Printed s)
    (hlast : 0x20 ≤ last.toNat) : Printed (first :: (s ++ [last])) :=
  cons hfirst (hs.append (cons hlast nofun))

theorem tab_notMem {s : Text} (hs : Printed s) : '\t' ∉ s :=
  fun h => absurd (hs _ h) (by decide)

theorem hexDigit {n : Nat} (h : n < 16) : 0x20 ≤ (Write.hexDigit n).toNat :=
  (by decide : ∀ n : Fin 16, 0x20 ≤ (Write.hexDigit n).toNat) ⟨n, h⟩

/-- The control characters are those that are escaped. -/
theorem escaped (c : Char) : Printed (Write.escaped c) := by
  unfold Write.escaped
  split_ifs with hquote hbackslash hb hf hn hr ht hcontrol
  iterate 7 decide
  · have hfront : Printed ['\\', 'u', '0', '0'] := by decide
    have hhigh := hexDigit (show c.toNat / 16 < 16 by omega)
    have hlow := hexDigit (show c.toNat % 16 < 16 by omega)
    exact hfront.append (cons hhigh (cons hlow nofun))
  · exact cons (Nat.not_lt.mp hcontrol) nofun

theorem string (s : Text) : Printed (Write.string s) := by
  refine between (by decide) (fun c hc => ?_) (by decide)
  obtain ⟨d, -, hd⟩ := List.mem_flatMap.mp hc
  exact escaped d c hd

theorem int (n : Int) : Printed (Write.int n) := by
  intro c hc
  have hn := Name.toNat_of_isChar (isChar_of_mem_int hc)
  omega

mutual

theorem compact : ∀ v : Value, v.Integral → Printed v.compact
  | .null, _ => by decide
  | .bool true, _ | .bool false, _ => by decide
  | .number number, h => by
    obtain ⟨n, rfl, -⟩ := h number rfl
    exact int n
  | .text s, _ => string s
  | .array items, h => between (by decide) (compactItems items h.2) (by decide)
  | .object members, h => between (by decide) (compactMembers members h.2) (by decide)

theorem compactItems : ∀ items, Value.AllItems Value.IsInteger items → Printed (Value.compactItems items)
  | [], _ => nofun
  | [v], h => compact v h.1
  | v :: w :: items, h => (compact v h.1).append (cons (by decide) (compactItems (w :: items) h.2))

theorem compactMembers :
    ∀ members, Value.AllMembers Value.IsInteger members → Printed (Value.compactMembers members)
  | [], _ => nofun
  | [(k, v)], h => (string k).append (cons (by decide) (compact v h.1))
  | (k, v) :: m :: members, h =>
    ((string k).append (cons (by decide) (compact v h.1))).append
      (cons (by decide) (compactMembers (m :: members) h.2))

end

end Printed

/-! ### The body of a block -/

namespace Value

/-- Between the quotes of a string and the brackets of an array or an object. -/
theorem ends_between {first last : Char} (s : Text) (hfirst : isBlank first = false)
    (hlast : isBlank last = false) (hne : last ≠ ':') :
    Text.Firm (first :: (s ++ [last])) ∧ (first :: (s ++ [last])).getLast? ≠ some ':' := by
  have hend : Text.Firm [last] := Text.firm_of_not_blank (List.cons_ne_nil last []) (by simpa using hlast)
  refine ⟨hend.cons_append hfirst s, ?_⟩
  rw [← List.cons_append, List.getLast?_concat]
  simpa using hne

/-- Compact text begins and ends with something else than white space, and it does not
end with a colon. -/
theorem ends_compact {v : Value} (h : v.Integral) :
    Text.Firm v.compact ∧ v.compact.getLast? ≠ some ':' := by
  cases v with
  | null =>
    have hfirm : Text.Firm Write.null := Text.firm_of_not_blank (by decide) (by simp [Write.null, isBlank])
    exact ⟨hfirm, by decide⟩
  | bool b =>
    have hfirm : Text.Firm (Write.bool b) := by
      cases b <;> exact Text.firm_of_not_blank (by decide) (by simp [Write.bool, isBlank])
    exact ⟨hfirm, by cases b <;> decide⟩
  | number number =>
    obtain ⟨n, rfl, -⟩ := h number rfl
    have hfirm : Text.Firm (Write.int n) :=
      Text.firm_of_not_blank (Decimal.int_ne_nil n) fun c hc => Name.not_blank_of_isChar (isChar_of_mem_int hc)
    exact ⟨hfirm, fun hlast => absurd (isChar_of_mem_int (List.mem_of_getLast? hlast)) (by decide)⟩
  | text s => exact ends_between _ (by decide) (by decide) (by decide)
  | array items => exact ends_between _ (by decide) (by decide) (by decide)
  | object members => exact ends_between _ (by decide) (by decide) (by decide)

theorem tight_compact {v : Value} (h : v.Integral) (hat : '@' ∉ v.compact) : Block.Tight v.compact := by
  obtain ⟨hfirm, hlast⟩ := ends_compact h
  refine ⟨hfirm, hat, ?_⟩
  rintro ⟨s, hs⟩
  exact hlast (hs ▸ List.getLast?_append ..)

end Value

/-! ### Writing and parsing -/

/-- A value as the parameter of a block. -/
def Value.toBlock (n : Text) (v : Value) : Text :=
  '@' :: (n ++ ':' :: ' ' :: (v.compact ++ ' ' :: (Block.closingWord ++ n)))

theorem Text.allBlank_space : AllBlank [' '] := by
  simp [AllBlank, isBlank]

/-- A value as the parameter of a block is a document of one block. -/
theorem Document.exists_of_value {n : Text} {v : Value} (hname : isName n = true) (hintegral : v.Integral)
    (hat : '@' ∉ v.compact) :
    ∃ d : Document, d.text = v.toBlock n ∧ d.lines = [] ∧
      d.blocks.map (fun pair => (Form.block, pair.2.name, pair.2.body)) = [(.block, n, v.compact)] := by
  let block : BlockItem := {
    name := n, body := v.compact, markers := [], blank := [' '], before := [' ']
    word := Block.closingWord ++ n, after := []
    isName_name := hname
    tight := Value.tight_compact hintegral hat
    tab_notMem := (Printed.compact v hintegral).tab_notMem
    opening := ⟨[], [], .none, .none, rfl⟩
    allBlank := Text.allBlank_space
    blank_ne_nil := List.cons_ne_nil ' ' []
    beforeWord := ⟨[' '], [], Text.allBlank_space, .none, rfl⟩
    closingWord := .same
    closing := ⟨[], [], .none, .none, rfl⟩ }
  let empty : Gap := ⟨[], List.not_mem_nil, List.not_mem_nil⟩
  refine ⟨⟨[(empty, block)], [], empty⟩, ?_, rfl, rfl⟩
  simp [block, empty, text, written, BlockItem.text, Value.toBlock]

theorem Parameter.decode_compact {v : Value} (hordered : v.Ordered) (hintegral : v.Integral)
    (hdepth : v.depth < Read.depthLimit) : decode v.compact = v := by
  rw [decode, Value.ofJson?_compact hordered hintegral hdepth]
  rfl

namespace Directive

variable {σ : Type} {n : Text} {v : Value}

/-- **Values survive being written into a document.** The compact text that the command
`json` answers for a value is read back as this value: with a name around it, it is a
document of one directive, a block with the value for its parameter, whether tabs are
stripped or not. Asked of the value is that its objects are in order, that its numbers
are integers of 64 bits, that it nests less than 128 deep and that no `@` is in the
text. -/
theorem exists_parse_toBlock (hname : isName n = true) (hordered : v.Ordered) (hintegral : v.Integral)
    (hdepth : v.depth < 128) (hat : '@' ∉ v.compact) (registry : Registry σ) (stripTabs : Bool)
    (e : Effects σ) :
    (Builtin.json.call v e).1 = .text v.compact ∧
      ∃ d, (parse registry stripTabs (v.toBlock n) e).1 = .ok [d] ∧ d.token.form = .block ∧
        d.token.name = n ∧ d.parameter = v := by
  refine ⟨rfl, ?_⟩
  obtain ⟨document, htext, hlines, hblocks⟩ := Document.exists_of_value hname hintegral hat
  obtain ⟨tokens, htokens, hmap⟩ := document.ofText_text stripTabs
  rw [htext] at htokens
  rw [hblocks, hlines] at hmap
  obtain ⟨token, rfl, htoken⟩ := List.map_eq_singleton_iff.mp hmap
  have hsays : token.directive = (.block, n, v.compact) := htoken
  obtain ⟨hform, hname, hcontent⟩ : token.form = .block ∧ token.name = n ∧ token.content = v.compact := by
    simpa [Token.directive] using hsays
  have hparameter : (bound registry stripTabs (v.toBlock n) token).parameter = v := by
    rw [bound, hcontent, Parameter.decode_compact hordered hintegral hdepth]
  exact ⟨_, parse_of_ofText htokens registry e, hform, hname, hparameter⟩

end Directive

/-- The bounds of the integers, a marker for a key, and characters that are escaped. -/
def Value.awkward : Value :=
  .object [
    ([], .array [.number (.int (-9223372036854775808)), .number (.int 18446744073709551615), .object []]),
    (['/', '/', ':'], .text ['"', '\t', ';', '\\'])]

/-- Under a name that begins like a closing word. -/
theorem Directive.exists_parse_toBlock_awkward :
    Value.awkward.Ordered ∧ Value.awkward.Integral ∧ Value.awkward.depth = 3 ∧
      ∃ d : Directive Unit,
        (parse ∅ true (Value.awkward.toBlock ['e', 'n', 'd', '-', 'x', '1']) ⟨(), []⟩).1 = .ok [d] ∧
          d.parameter = Value.awkward := by
  have hordered : Value.awkward.Ordered := by
    simp [Value.awkward, Value.Ordered, Value.All, Value.AllItems, Value.AllMembers, Value.IsOrdered,
      Text.Before, Text.le]
  have hintegral : Value.awkward.Integral := by
    simp [Value.awkward, Value.Integral, Value.All, Value.AllItems, Value.AllMembers, Value.IsInteger,
      Decimal.IsWord]
  have hname : isName ['e', 'n', 'd', '-', 'x', '1'] = true := by decide
  obtain ⟨-, d, hparse, -, -, hparameter⟩ :=
    exists_parse_toBlock hname hordered hintegral (by decide) (by decide) ∅ true ⟨(), []⟩
  exact ⟨hordered, hintegral, by decide, d, hparse, hparameter⟩

end Directives
