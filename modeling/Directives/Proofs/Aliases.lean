import Directives.Proofs.Group
import Directives.Proofs.Json.Lexemes
import Directives.Proofs.Naming
import Mathlib.Data.List.Nodup

/-! Aliases of repeated commands.

An alias is a command, the mark `.$` and an index, and it is cut at its last mark. No text
of an index has a `$` in it, so that the cut finds the command and the index again
(`splitAlias?_append`), and an index is read from any text of digits that denotes it, zeros
in front and a `+` included (`index?_eq_some_iff`). A command has neither mark nor `$` in
it, which is why no other cut of a key makes sense: one that occurs only once has no alias
at all (`aliased_ofList`). -/
namespace Directives.Group

variable {σ : Type} {directives : List (Directive σ)}

/-! ### Indexes -/

/-- Digits, with or without a `+` in front, that denote a number of 64 bits. -/
def Denotes (s : Text) (n : Nat) : Prop :=
  ∃ digits : Text, (s = digits ∨ s = '+' :: digits) ∧ digits ≠ [] ∧ (∀ c ∈ digits, c.isDigit = true) ∧
    Nat.ofDigitChars 10 digits 0 = n ∧ n < Nat.pow 2 64

theorem natOf_eq (digits : Text) : Decimal.natOf digits = Nat.ofDigitChars 10 digits 0 := by
  unfold Decimal.natOf Nat.ofDigitChars
  congr
  funext n c
  rw [Nat.mul_comm]
  rfl

/-- The text of an index without the `+` in front of it. -/
def unsigned : Text → Text
  | '+' :: rest => rest
  | s => s

theorem eq_unsigned (s : Text) : s = unsigned s ∨ s = '+' :: unsigned s := by
  unfold unsigned
  split
  · exact .inr rfl
  · exact .inl rfl

theorem unsigned_of_ne {s : Text} (h : ∀ rest, s ≠ '+' :: rest) : unsigned s = s := by
  unfold unsigned
  split
  next rest => exact absurd rfl (h rest)
  next => rfl

theorem index?_eq (s : Text) :
    index? s = if (unsigned s).isEmpty || !(unsigned s).all Char.isDigit then none
      else if Decimal.natOf (unsigned s) < Nat.pow 2 64 then some (Decimal.natOf (unsigned s)) else none := by
  unfold index?
  split
  next => rfl
  next hne => rw [unsigned_of_ne hne]

/-- An index is read from the digits that denote it, and from no other text. -/
theorem index?_eq_some_iff {s : Text} {n : Nat} : index? s = some n ↔ Denotes s n := by
  rw [index?_eq, natOf_eq]
  constructor
  · intro h
    split at h
    next => cases h
    next hdigits =>
      rw [Bool.or_eq_true, not_or, Bool.not_eq_true', Bool.not_eq_false] at hdigits
      split at h
      next hbound =>
        cases h
        exact ⟨unsigned s, eq_unsigned s, by simpa using hdigits.1, List.all_eq_true.mp hdigits.2, rfl, hbound⟩
      next => cases h
  · rintro ⟨digits, hs, hne, hdigits, rfl, hbound⟩
    have hunsigned : unsigned s = digits := by
      rcases hs with rfl | rfl
      · refine unsigned_of_ne fun rest hplus => ?_
        exact absurd (hdigits '+' (hplus ▸ List.mem_cons_self ..)) (by decide)
      · rfl
    rw [hunsigned, List.isEmpty_eq_false_iff.mpr hne, List.all_eq_true.mpr hdigits, if_pos hbound]
    rfl

theorem Denotes.notMem {s : Text} {n : Nat} (h : Denotes s n) : '$' ∉ s := by
  obtain ⟨digits, hs, -, hdigits, -⟩ := h
  have hnot : '$' ∉ digits := fun hmem => absurd (hdigits '$' hmem) (by decide)
  rcases hs with rfl | rfl
  · exact hnot
  · exact fun hmem => hnot ((List.mem_cons.mp hmem).resolve_left (by decide))

/-- An index is denoted by its digits. -/
theorem denotes_ofNat {n : Nat} (h : n < Nat.pow 2 64) : Denotes (Text.ofNat n) n :=
  ⟨Text.ofNat n, .inl rfl, Decimal.ofNat_ne_nil n, fun _ => Decimal.isDigit_of_mem_ofNat,
    Nat.ofDigitChars_ten_toDigits, h⟩

theorem notMem_ofNat (n : Nat) : '$' ∉ Text.ofNat n :=
  fun hmem => absurd (Decimal.isDigit_of_mem_ofNat hmem) (by decide)

/-! ### Cutting a key -/

theorem splitAlias?_of_notMem {s : Text} (h : '$' ∉ s) : splitAlias? s = none := by
  induction s with
  | nil => rfl
  | cons c s ih =>
    have hmark : Text.after? aliasMark (c :: s) = none := by
      rw [Option.eq_none_iff_forall_ne_some]
      intro rest hrest
      rw [Text.after?_eq_some_iff] at hrest
      exact h (hrest ▸ by simp [aliasMark])
    rw [splitAlias?, ih fun hmem => h (List.mem_cons_of_mem c hmem), hmark]
    rfl

/-- A key is cut at its last mark. -/
theorem splitAlias?_append (name : Text) {rest : Text} (h : '$' ∉ rest) :
    splitAlias? (name ++ aliasMark ++ rest) = some (name, rest) := by
  induction name with
  | nil =>
    show splitAlias? ('.' :: '$' :: rest) = _
    rw [splitAlias?, splitAlias?, splitAlias?_of_notMem h]
    rfl
  | cons c name ih =>
    rw [List.cons_append, List.cons_append, splitAlias?, ih]

theorem eq_of_splitAlias? {key name rest : Text} (h : splitAlias? key = some (name, rest)) :
    key = name ++ aliasMark ++ rest := by
  induction key generalizing name with
  | nil => cases h
  | cons c key ih =>
    rw [splitAlias?] at h
    split at h
    next before behind hcut =>
      cases h
      rw [ih hcut]
      rfl
    next =>
      obtain ⟨behind, hafter, hpair⟩ := Option.map_eq_some_iff.mp h
      cases hpair
      exact Text.after?_eq_some_iff.mp hafter

/-- A key with a single `$` can be cut in one way only. -/
theorem eq_of_cut {name other rest more : Text} (h : name ++ aliasMark ++ rest = other ++ aliasMark ++ more)
    (hother : '$' ∉ other) (hmore : '$' ∉ more) : name = other ∧ rest = more := by
  -- there is one `$` in all, and it is that of the mark
  have hcount := congrArg (List.count '$') h
  simp only [List.count_append, List.count_eq_zero.mpr hother, List.count_eq_zero.mpr hmore] at hcount
  have hrest : '$' ∉ rest := List.count_eq_zero.mp (by omega)
  have hcut := splitAlias?_append name hrest
  rw [h, splitAlias?_append other hmore, Option.some.injEq, Prod.mk.injEq] at hcut
  exact ⟨hcut.1.symm, hcut.2.symm⟩

theorem aliasOf_inj {name other : Text} {i j : Nat} :
    aliasOf name i = aliasOf other j ↔ name = other ∧ i = j := by
  constructor
  · intro h
    have hcut := splitAlias?_append name (notMem_ofNat i)
    rw [show name ++ aliasMark ++ Text.ofNat i = other ++ aliasMark ++ Text.ofNat j from h,
      splitAlias?_append other (notMem_ofNat j), Option.some.injEq, Prod.mk.injEq] at hcut
    refine ⟨hcut.1.symm, ?_⟩
    have hvalue := congrArg (Nat.ofDigitChars 10 · 0) hcut.2
    simpa [Text.ofNat, Nat.ofDigitChars_ten_toDigits, eq_comm] using hvalue
  · rintro ⟨rfl, rfl⟩
    rfl

/-! ### Aliases of a group -/

/-- The directives of a command, in their order. -/
def occurrences (directives : List (Directive σ)) (name : Text) : List (Directive σ) :=
  directives.filter (·.command = name)

/-- The keys of a command that is repeated: each occurrence has the one with its index. -/
def keysOf (directives : List (Directive σ)) (name : Text) : List Text :=
  if 2 ≤ (occurrences directives name).length then
    (List.range (occurrences directives name).length).map (aliasOf name)
  else []

/-- What the aliases of the directives are: the keys of the repeated commands. An alias is looked up by
its key, its index being a number of 64 bits, and a key leads to an occurrence only where it is a
repeated command, the mark and a text that denotes the place of the occurrence. -/
structure Aliased (g : Group σ) (directives : List (Directive σ)) : Prop where
  aliases_eq : g.aliases = g.names.flatMap (keysOf directives)
  nodup_aliases : g.aliases.Nodup
  getAlias?_aliasOf : ∀ name, 2 ≤ (occurrences directives name).length → ∀ index < Nat.pow 2 64,
    g.getAlias? (aliasOf name index) = (occurrences directives name)[index]?
  getAlias?_eq_some_iff : ∀ key d, g.getAlias? key = some d ↔
    ∃ name rest index, key = name ++ aliasMark ++ rest ∧ Denotes rest index ∧
      2 ≤ (occurrences directives name).length ∧ (occurrences directives name)[index]? = some d
  getAlias?_eq_none : ∀ name, (occurrences directives name).length < 2 → ∀ rest,
    g.getAlias? (name ++ aliasMark ++ rest) = none

theorem exists_of_mem_keysOf {name key : Text} (h : key ∈ keysOf directives name) :
    ∃ index, aliasOf name index = key := by
  rw [keysOf] at h
  split at h
  · obtain ⟨index, -, hkey⟩ := List.mem_map.mp h
    exact ⟨index, hkey⟩
  · cases h

theorem nodup_keysOf (directives : List (Directive σ)) (name : Text) : (keysOf directives name).Nodup := by
  rw [keysOf]
  split
  · exact List.nodup_range.map fun i j h => (aliasOf_inj.mp h).2
  · exact List.nodup_nil

theorem many?_eq (e : Entry σ) : e.many? = if 2 ≤ e.toList.length then some e.toList else none := by
  cases e with
  | single d => rfl
  | many first second rest => exact (if_pos (Nat.le_add_left 2 rest.length)).symm

/-- The occurrences of a command that has several. -/
theorem bind_many?_get? (directives : List (Directive σ)) (name : Text) :
    ((ofList directives).get? name).bind Entry.many? =
      if 2 ≤ (occurrences directives name).length then some (occurrences directives name) else none := by
  cases hget : (ofList directives).get? name with
  | some entry =>
    rw [Option.bind_some, many?_eq, toList_of_get? hget]
    rfl
  | none =>
    have hnone : occurrences directives name = [] := by
      rw [occurrences, ← listed_ofList, listed, show (ofList directives).entries.lookup name = none from hget]
      rfl
    rw [hnone]
    rfl

theorem aliases_ofList (directives : List (Directive σ)) :
    (ofList directives).aliases = (ofList directives).names.flatMap (keysOf directives) := by
  rw [aliases, names, List.flatMap_map]
  refine List.flatMap_congr fun pair hmem => ?_
  obtain ⟨name, entry⟩ := pair
  have hget := get?_of_mem (nodup_names directives) hmem
  have hmany := bind_many?_get? directives name
  rw [hget, Option.bind_some] at hmany
  simp only [hmany, keysOf]
  by_cases hrepeated : 2 ≤ (occurrences directives name).length
  · simp only [if_pos hrepeated]
  · simp only [if_neg hrepeated]

theorem nodup_aliases (directives : List (Directive σ)) : (ofList directives).aliases.Nodup := by
  rw [aliases_ofList, List.nodup_flatMap]
  refine ⟨fun name _ => nodup_keysOf directives name, (nodup_names directives).imp fun {name other} hne => ?_⟩
  intro key hname hother
  obtain ⟨i, hi⟩ := exists_of_mem_keysOf hname
  obtain ⟨j, hj⟩ := exists_of_mem_keysOf hother
  exact hne (aliasOf_inj.mp (hi.trans hj.symm)).1

/-- A key with an index leads to the occurrence of a repeated command. -/
theorem getAlias?_append {rest : Text} {index : Nat} (h : Denotes rest index) (name : Text) :
    (ofList directives).getAlias? (name ++ aliasMark ++ rest) =
      if 2 ≤ (occurrences directives name).length then (occurrences directives name)[index]? else none := by
  have hmany := bind_many?_get? directives name
  simp only [getAlias?, splitAlias?_append name h.notMem, index?_eq_some_iff.mpr h, Option.bind_eq_bind,
    Option.bind_some]
  rw [← Option.bind_assoc, hmany]
  split <;> rfl

theorem getAlias?_eq_some_iff {key : Text} {d : Directive σ} :
    (ofList directives).getAlias? key = some d ↔
      ∃ name rest index, key = name ++ aliasMark ++ rest ∧ Denotes rest index ∧
        2 ≤ (occurrences directives name).length ∧ (occurrences directives name)[index]? = some d := by
  constructor
  · intro h
    have hread := h
    simp only [getAlias?, Option.bind_eq_bind, Option.bind_eq_some_iff] at hread
    obtain ⟨⟨name, rest⟩, hcut, index, hindex, -⟩ := hread
    have hkey := eq_of_splitAlias? hcut
    have hdenotes := index?_eq_some_iff.mp hindex
    rw [hkey, getAlias?_append hdenotes] at h
    split at h
    next hrepeated => exact ⟨name, rest, index, hkey, hdenotes, hrepeated, h⟩
    next => cases h
  · rintro ⟨name, rest, index, rfl, hdenotes, hrepeated, hget⟩
    rw [getAlias?_append hdenotes, if_pos hrepeated, hget]

/-- There is no `$` in the command of a name. -/
theorem notMem_camelCase {n : Text} (h : isName n = true) : '$' ∉ camelCase n := by
  obtain ⟨hcommand, -⟩ := isName_iff.mp h
  obtain ⟨-, hlettered, -, hchars⟩ := Config.isCommandName_iff.mp hcommand
  intro hmem
  rcases mem_camelCase hlettered hmem with ⟨hmem, hne⟩ | hupper
  · exact absurd (hchars '$' hmem hne) (by decide)
  · exact absurd hupper (by decide)

theorem notMem_of_occurrences (h : ∀ d ∈ directives, isName d.token.name = true)
    {name : Text} (hname : occurrences directives name ≠ []) : '$' ∉ name := by
  obtain ⟨d, hd⟩ := List.exists_mem_of_ne_nil _ hname
  obtain ⟨hmem, hcommand⟩ := List.mem_filter.mp hd
  have hname : d.command = name := by simpa using hcommand
  exact hname ▸ notMem_camelCase (h d hmem)

/-- **Aliases and look-ups agree.** The aliases of a group are the keys with the indexes of the
occurrences of each repeated command, no key twice, and each leads to its occurrence. Any
other key that leads somewhere denotes an index in another way; and as no command has a `$` in
it, none that is called fewer than two times has an alias. -/
theorem aliased_ofList (h : ∀ d ∈ directives, isName d.token.name = true) :
    (ofList directives).Aliased directives where
  aliases_eq := aliases_ofList directives
  nodup_aliases := nodup_aliases directives
  getAlias?_aliasOf name hrepeated index hindex := by
    rw [aliasOf, getAlias?_append (denotes_ofNat hindex), if_pos hrepeated]
  getAlias?_eq_some_iff _ _ := getAlias?_eq_some_iff
  getAlias?_eq_none name hfew rest := by
    rw [Option.eq_none_iff_forall_ne_some]
    intro d hget
    obtain ⟨other, more, index, hkey, hdenotes, hrepeated, -⟩ := getAlias?_eq_some_iff.mp hget
    have hne : occurrences directives other ≠ [] :=
      List.ne_nil_of_length_pos (Nat.lt_of_lt_of_le Nat.two_pos hrepeated)
    obtain ⟨rfl, -⟩ := eq_of_cut hkey (notMem_of_occurrences h hne) hdenotes.notMem
    omega

/-- Of a command that is called twice, an index with a sign and zeros leads where the alias does. -/
theorem aliased_ofList_twice :
    let called (name content : Text) (span : Span) : Directive Unit :=
      ⟨content, ⟨content, name, content, .line, span, span⟩, .text content, none, true, none⟩
    let last := called "to-upper".toList "c".toList ⟨26, 40⟩
    let directives :=
      [called "to-upper".toList "a".toList ⟨0, 14⟩, called "trim".toList "b".toList ⟨15, 25⟩, last]
    (∀ d ∈ directives, isName d.token.name = true) ∧
      (ofList directives).aliases = ["toUpper.$0".toList, "toUpper.$1".toList] ∧
      (ofList directives).getAlias? "toUpper.$1".toList = some last ∧
      (ofList directives).getAlias? "toUpper.$+01".toList = some last ∧
      (ofList directives).getAlias? "trim.$0".toList = none := by
  intro called last directives
  have hnames : ∀ d ∈ directives, isName d.token.name = true := by decide +kernel
  have h := aliased_ofList hnames
  have hlast : (occurrences directives "toUpper".toList)[1]? = some last := rfl
  have hdenotes : Denotes "+01".toList 1 :=
    ⟨"01".toList, .inr rfl, by decide, List.all_eq_true.mp (by decide), by decide, by decide⟩
  refine ⟨hnames, h.aliases_eq.trans (by decide +kernel), ?_, ?_, ?_⟩
  · exact (h.getAlias?_aliasOf "toUpper".toList (by decide +kernel) 1 (by decide)).trans hlast
  · exact (h.getAlias?_eq_some_iff _ last).mpr
      ⟨"toUpper".toList, "+01".toList, 1, by decide, hdenotes, by decide +kernel, hlast⟩
  · exact h.getAlias?_eq_none "trim".toList (by decide +kernel) "0".toList

end Directives.Group
