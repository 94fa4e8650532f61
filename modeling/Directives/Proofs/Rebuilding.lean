import Directives.Proofs.Editing
import Directives.Proofs.Extent
import Directives.Proofs.Placement
import Mathlib.Data.List.Find

/-! Rebuilding what was not edited.

Where nothing is staged the text is read again as it was, and the directive is looked
for by its command and the byte where it begins. No two directives of one form begin
at the same byte, but a block may begin where a line directive does, with the second
colon of that as the first character inside (`Token.exists_colon_inside`); blocks come
first, so that the block is found in place of the line directive
(`Directive.rebuild_unedited_iff`). -/
namespace Directives

/-! ### Equal to itself -/

theorem Number.same_self (n : Number) : n.same n = true := by
  cases n <;> simp [Number.same]

mutual

theorem Value.same_self : (v : Value) → v.same v = true
  | .null => rfl
  | .bool b => by simp [Value.same]
  | .number n => n.same_self
  | .text s => by simp [Value.same]
  | .array items => Value.sameItems_self items
  | .object members => Value.sameMembers_self members

theorem Value.sameItems_self : (items : List Value) → Value.sameItems items items = true
  | [] => rfl
  | v :: items => by rw [Value.sameItems, Value.same_self v, Value.sameItems_self items]; rfl

theorem Value.sameMembers_self : (members : List (Text × Value)) → Value.sameMembers members members = true
  | [] => rfl
  | (key, v) :: members => by
    rw [Value.sameMembers, Value.same_self v, Value.sameMembers_self members, beq_self_eq_true]
    rfl

end

theorem Staged.same_self (s : Staged) : s.same s = true := by
  cases hparameter : s.parameter <;> simp [Staged.same, hparameter, Value.same_self]

namespace Token

variable {stripTabs : Bool} {s : Text} {tokens : List Token}

/-! ### What begins at a byte -/

/-- Behind a line directive stand no blocks. -/
theorem pairwise_form (h : ofText stripTabs s = .ok tokens) :
    tokens.Pairwise fun a b => a.form = .line → b.form = .line := by
  obtain ⟨blocks, lines, rfl, hblocks, hlines⟩ := ofText_eq_ok_iff.mp h
  have hblock := form_of_blocks hblocks
  have hline := form_of_lines hlines
  refine List.pairwise_append.mpr ⟨List.pairwise_of_forall_mem_list fun a ha b _ hform => ?_,
    List.pairwise_of_forall_mem_list fun _ _ b hb _ => hline b hb, fun _ _ b hb _ => hline b hb⟩
  rw [hblock a ha] at hform
  cases hform

/-- Where a block begins, a block is the first to begin. -/
theorem form_of_first (h : ofText stripTabs s = .ok tokens) {start : Nat} {first b : Token}
    (hfirst : tokens.find? (·.span.start = start) = some first) (hb : b ∈ tokens)
    (hstart : b.span.start = start) (hblock : b.form = .block) : first.form = .block := by
  obtain ⟨-, before, behind, rfl, hbefore⟩ := List.find?_eq_some_iff_append.mp hfirst
  rcases List.mem_append.mp hb with hmem | hmem
  · have hne := hbefore b hmem
    simp [hstart] at hne
  · rcases List.mem_cons.mp hmem with rfl | hmem
    · exact hblock
    -- the block stands behind the first to begin there, which is no line directive then
    · have hpairwise := (List.pairwise_append.mp (pairwise_form h)).2.1
      cases hform : first.form with
      | block => rfl
      | line =>
        rw [List.rel_of_pairwise_cons hpairwise hmem hform] at hblock
        cases hblock

/-- A block begins where the line directive does. -/
def Shadowed (tokens : List Token) (line : Token) : Prop :=
  line.form = .line ∧ ∃ b ∈ tokens, b.form = .block ∧ b.span.start = line.span.start

instance (tokens : List Token) (line : Token) : Decidable (Shadowed tokens line) :=
  inferInstanceAs (Decidable (_ ∧ ∃ b ∈ tokens, _ ∧ _))

/-- All tokens but shadowed ones are the first to begin where they do. -/
theorem first_eq_iff (h : ofText stripTabs s = .ok tokens) {a first : Token} (ha : a ∈ tokens)
    (hfirst : tokens.find? (·.span.start = a.span.start) = some first) :
    first = a ↔ ¬ Shadowed tokens a := by
  constructor
  · rintro rfl ⟨hline, b, hb, hblock, hstart⟩
    rw [form_of_first h hfirst hb hstart hblock] at hline
    cases hline
  · intro hnot
    have hmem := List.mem_of_find?_eq_some hfirst
    have hstart : first.span.start = a.span.start := by simpa using List.find?_some hfirst
    have hform : first.form = a.form := by
      cases hforma : a.form with
      | block => exact form_of_first h hfirst ha rfl hforma
      | line =>
        cases hformfirst : first.form with
        | line => rfl
        | block => exact absurd ⟨hforma, first, hmem, hformfirst, hstart⟩ hnot
    exact eq_of_start h hmem ha hform hstart

/-- The block that a line directive is shadowed by has its second colon inside. -/
theorem exists_colon_inside (h : ofText stripTabs s = .ok tokens) {line : Token} (hmem : line ∈ tokens)
    (hshadowed : Shadowed tokens line) :
    ∃ o ∈ (Scan.blocks s).occurrences, o.name = line.name ∧ o.inside.head? = some ':' := by
  obtain ⟨hline, b, hb, hblock, hstart⟩ := hshadowed
  obtain ⟨found, hfound, rest, hstands, hname, front, markers, hbegins⟩ := exists_begins h hb
  obtain ⟨_, -, _, -, -, _, _, hbegins'⟩ := exists_begins h hmem
  obtain ⟨hnames, hbehind⟩ := hbegins.unique hbegins' hstart
  rw [hblock] at hfound hstands hbehind
  rw [hline] at hbehind
  refine ⟨found.2, ?_, hname.symm.trans hnames, ?_⟩
  · rw [Scan.blocks, ← Scan.map_located]
    exact List.mem_map_of_mem hfound
  · obtain ⟨word, after, -, hinside⟩ := Block.exists_behind hstands
    obtain ⟨c, inside, hcons⟩ := List.exists_cons_of_ne_nil (Block.inside_ne_nil hstands)
    rw [hinside, hcons] at hbehind
    obtain ⟨hc, -⟩ := List.cons.inj (List.cons.inj hbehind).2
    rw [hcons, hc, List.head?_cons]

end Token

namespace Directive

variable {σ : Type} {registry : Registry σ} {stripTabs : Bool} {text : Text} {e : Effects σ}
  {ds : List (Directive σ)} {d : Directive σ}

/-! ### The same directive -/

theorem same_self (d : Directive σ) : d.same d = true := by
  cases hstaged : d.staged <;> simp [same, hstaged, Value.same_self, Staged.same_self]

theorem token_eq_of_same {d' : Directive σ} (h : d.same d' = true) : d.token = d'.token := by
  simp only [same, Bool.and_eq_true, beq_iff_eq] at h
  exact h.1.1.1.2

/-- Directives of a text that begin at the same byte call the same command. -/
theorem command_eq_of_start (h : (parse registry stripTabs text e).1 = .ok ds) {a b : Directive σ}
    (ha : a ∈ ds) (hb : b ∈ ds) (hstart : a.token.span.start = b.token.span.start) :
    a.command = b.command := by
  obtain ⟨tokens, htokens, rfl⟩ := parse_eq_ok_iff.mp h
  obtain ⟨first, hfirst, rfl⟩ := List.mem_map.mp ha
  obtain ⟨second, hsecond, rfl⟩ := List.mem_map.mp hb
  exact congrArg camelCase (Token.name_eq_of_start htokens hfirst hsecond hstart)

/-- What is rebuilt is the first directive that begins where the directive does. -/
theorem exists_rebuild_unedited (h : (parse registry stripTabs text e).1 = .ok ds) (hmem : d ∈ ds)
    (e' : Effects σ) : ∃ r, (rebuild registry d e').1 = .ok (some r) ∧
      ds.find? (·.token.span.start = d.token.span.start) = some r := by
  have hsome : (ds.find? (·.token.span.start = d.token.span.start)).isSome = true :=
    List.find?_isSome.mpr ⟨d, hmem, by simp⟩
  obtain ⟨r, hr⟩ := Option.isSome_iff_exists.mp hsome
  refine ⟨r, ?_, hr⟩
  obtain ⟨entry, hget, hlist⟩ := Group.exists_entry hmem
  have hfound : (ds.filter (·.command = d.command)).find? (·.token.span.start == d.token.span.start) =
      some r := by
    rw [List.find?_filter, ← hr]
    refine List.find?_congr fun x hx => ?_
    have hcommand : x.token.span.start = d.token.span.start → x.command = d.command :=
      command_eq_of_start h hx hmem
    simpa using hcommand
  have hentry : entry.startingAt d.token.span.start = r := by
    rw [Entry.startingAt, hlist, hfound]
    rfl
  obtain ⟨tokens, htokens, rfl⟩ := parse_eq_ok_iff.mp h
  obtain ⟨token, -, rfl⟩ := List.mem_map.mp hmem
  have hparse : (parse registry stripTabs text e').1 = .ok (tokens.map (bound registry stripTabs text)) :=
    parse_eq_ok_iff.mpr ⟨tokens, htokens, rfl⟩
  have hrebuild := rebuild_of_parse (d := bound registry stripTabs text token) hparse hget
  rw [hrebuild, hentry]
  rfl

/-- **Rebuilding what was not edited.** It comes to the first directive that begins where the directive
does, which is the directive itself exactly if it is no line directive with a block beginning at the
same byte. Such a block has the second colon of the line directive inside. -/
theorem rebuild_unedited_iff (h : (parse registry stripTabs text e).1 = .ok ds) (hmem : d ∈ ds)
    (e' : Effects σ) : ∃ r, (rebuild registry d e').1 = .ok (some r) ∧ r ∈ ds ∧
      r.token.span.start = d.token.span.start ∧ r.command = d.command ∧
      (r = d ↔ ¬ Token.Shadowed (ds.map (·.token)) d.token) ∧
      (r.same d = true ↔ ¬ Token.Shadowed (ds.map (·.token)) d.token) ∧
      (Token.Shadowed (ds.map (·.token)) d.token → r.token.form = .block ∧
        ∃ o ∈ (Scan.blocks text).occurrences, o.name = d.token.name ∧ o.inside.head? = some ':') := by
  obtain ⟨r, hrebuild, hfirst⟩ := exists_rebuild_unedited h hmem e'
  have hr := List.mem_of_find?_eq_some hfirst
  have hstart : r.token.span.start = d.token.span.start := by simpa using List.find?_some hfirst
  have hcommand := command_eq_of_start h hr hmem hstart
  obtain ⟨tokens, htokens, rfl⟩ := parse_eq_ok_iff.mp h
  obtain ⟨token, htoken, rfl⟩ := List.mem_map.mp hmem
  rw [List.find?_map] at hfirst
  obtain ⟨first, hfind, rfl⟩ := Option.map_eq_some_iff.mp hfirst
  have hfirst : first = token ↔ ¬ Token.Shadowed tokens token :=
    Token.first_eq_iff htokens htoken hfind
  have hmap : (tokens.map (bound registry stripTabs text)).map (·.token) = tokens := by
    rw [List.map_map]
    exact List.map_id tokens
  rw [hmap]
  have hequal : bound registry stripTabs text first = bound registry stripTabs text token ↔ first = token :=
    ⟨congrArg Directive.token, congrArg _⟩
  have hsame : (bound registry stripTabs text first).same (bound registry stripTabs text token) = true ↔
      first = token := ⟨token_eq_of_same, fun heq => by rw [heq, same_self]⟩
  refine ⟨_, hrebuild, hr, hstart, hcommand, hequal.trans hfirst, hsame.trans hfirst, fun hshadowed => ?_⟩
  have ⟨_, b, hb, hblock, hbegins⟩ := hshadowed
  exact ⟨Token.form_of_first htokens hfind hb hbegins hblock,
    Token.exists_colon_inside htokens htoken hshadowed⟩

/-- A block with a line directive of its own name inside. -/
def outerBlock : Token :=
  ⟨"@aa: @aa:: x; @end-aa".toList, "aa".toList, "@aa:: x;".toList, .block, ⟨0, 21⟩, ⟨5, 13⟩⟩

/-- The line directive inside. -/
def innerLine : Token :=
  ⟨"@aa:: x;".toList, "aa".toList, "x".toList, .line, ⟨5, 13⟩, ⟨11, 12⟩⟩

/-- Inside a block of its own name a line directive is rebuilt as itself. -/
theorem rebuild_unedited_inside : ∃ r : Directive Unit,
    (rebuild ∅ (bound ∅ true outerBlock.matched innerLine) ⟨(), []⟩).1 = .ok (some r) ∧
    r.same (bound ∅ true outerBlock.matched innerLine) = true := by
  have htokens : Token.ofText true outerBlock.matched = .ok [outerBlock, innerLine] := by
    decide +kernel
  have hparse : (parse (∅ : Registry Unit) true outerBlock.matched ⟨(), []⟩).1 = .ok _ :=
    parse_eq_ok_iff.mpr ⟨_, htokens, rfl⟩
  obtain ⟨r, hrebuild, -, -, -, -, hsame, -⟩ := rebuild_unedited_iff hparse
    (List.mem_map_of_mem (List.mem_cons_of_mem _ (List.mem_singleton_self _))) ⟨(), []⟩
  exact ⟨r, hrebuild, hsame.mpr (by decide)⟩

/-- All of `@set:: 2; x @end-set`. -/
def wholeBlock : Token :=
  ⟨"@set:: 2; x @end-set".toList, "set".toList, ": 2; x".toList, .block, ⟨0, 20⟩, ⟨5, 11⟩⟩

/-- The line directive at its start. -/
def leadingLine : Token :=
  ⟨"@set:: 2;".toList, "set".toList, "2".toList, .line, ⟨0, 9⟩, ⟨7, 8⟩⟩

/-- A block that begins where a line directive does is rebuilt in its place. -/
theorem rebuild_shadowed :
    ¬ ∀ (registry : Registry Unit) (stripTabs : Bool) (text : Text) (e : Effects Unit)
      (ds : List (Directive Unit)) (d : Directive Unit),
      (parse registry stripTabs text e).1 = .ok ds → d ∈ ds →
      ∀ e', ∃ r, (rebuild registry d e').1 = .ok (some r) ∧ r.same d = true := by
  intro h
  let read : Token → Directive Unit := bound ∅ true wholeBlock.matched
  have htokens : Token.ofText true wholeBlock.matched = .ok [wholeBlock, leadingLine] := by
    decide +kernel
  have hparse : (parse (∅ : Registry Unit) true wholeBlock.matched ⟨(), []⟩).1 =
      .ok [read wholeBlock, read leadingLine] := parse_eq_ok_iff.mpr ⟨_, htokens, rfl⟩
  have hmem : read leadingLine ∈ [read wholeBlock, read leadingLine] :=
    List.mem_cons_of_mem _ (List.mem_singleton_self _)
  obtain ⟨r, hrebuild, hsame⟩ := h ∅ true _ ⟨(), []⟩ _ _ hparse hmem ⟨(), []⟩
  obtain ⟨r', hrebuild', hfirst⟩ := exists_rebuild_unedited hparse hmem ⟨(), []⟩
  cases hrebuild.symm.trans hrebuild'
  obtain rfl : read wholeBlock = r := Option.some.inj hfirst
  have htoken : wholeBlock = leadingLine := token_eq_of_same hsame
  exact absurd htoken (by decide)

end Directive
end Directives
