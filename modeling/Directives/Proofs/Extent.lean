import Directives.Proofs.Grammar.Scan

/-! How far a block reaches.

An opener opens a block exactly when a closing word of its name follows at a distance
of one character or more (`at?_isSome_iff`), and from there the block reaches to the
first such word. That one character is what blocks hinge on. A second colon may be
it: an opener of a line directive opens a block if only a closing word follows
(`no_line_opened_iff`). And so may the `@` of a closing word itself: what is closed at
once, or after white space, is not closed there if another closing word follows
(`ends_at_first_word_iff`). -/
namespace Directives.Block

open Text (AllBlank)

/-- A closing word of the block stands somewhere in the text. -/
def HoldsWord (name s : Text) : Prop := ∃ word, Word name word ∧ word <:+: s

/-- The text begins with a closing word of the block. -/
def BeginsWithWord (name s : Text) : Prop := ∃ word, Word name word ∧ word <+: s

theorem HoldsWord.mono {name s t : Text} (h : HoldsWord name s) (hst : s <:+: t) : HoldsWord name t := by
  obtain ⟨word, hw, hs⟩ := h
  exact ⟨word, hw, hs.trans hst⟩

/-- A closing word at some distance is a closer that is seen there. -/
theorem holdsWord_tail_iff {name s : Text} :
    HoldsWord name s.tail ↔ ∃ b r, s = b ++ r ∧ b ≠ [] ∧ (close? name r).isSome = true := by
  constructor
  · rintro ⟨word, hw, b, q, hsplit⟩
    cases s with
    | nil =>
      have hnil := List.eq_nil_of_infix_nil ⟨b, q, hsplit⟩
      exact absurd hnil hw.ne_nil
    | cons c s =>
      rw [List.tail_cons] at hsplit
      refine ⟨c :: b, word ++ q, by simp [← hsplit], List.cons_ne_nil c b, ?_⟩
      exact close?_isSome_iff.mpr ⟨[], word, q, .nil, hw, rfl⟩
  · rintro ⟨b, r, rfl, hb, hr⟩
    obtain ⟨before, word, q, -, hw, rfl⟩ := close?_isSome_iff.mp hr
    obtain ⟨c, b, rfl⟩ := List.exists_cons_of_ne_nil hb
    exact ⟨word, hw, b ++ before, q, by simp⟩

/-- No closer follows at a distance where no closing word does. -/
theorem shortest_eq_none_iff {name s : Text} :
    Body.shortest (close? name) s = none ↔ ¬ HoldsWord name s.tail := by
  rw [Body.shortest_eq_none_iff, holdsWord_tail_iff]
  simp only [not_exists, not_and, Bool.not_eq_true, Option.isSome_eq_false_iff, Option.isNone_iff_eq_none]

/-- An opener opens a block where a closing word follows at some distance. -/
theorem at?_isSome_iff {s name rest : Text} (h : open? s = some (name, rest)) :
    (at? s).isSome = true ↔ HoldsWord name rest.tail := by
  have hfind : (at? s).isSome = (Body.find Body.shortest (close? name) rest).isSome := by
    simp only [at?, h, Option.bind_eq_bind, Option.bind_some]
    cases Body.find Body.shortest (close? name) rest <;> rfl
  rw [hfind, Body.find_shortest_isSome_iff (close?_trimStart name), holdsWord_tail_iff]

/-! ### The first closing word -/

/-- The body begins behind the white space and ends at the first closer, or it is white
space that a closer follows and no other. -/
theorem body_cases {o : Occurrence} {rest : Text} (h : reading.Stands o rest) :
    ((∃ c t, o.body = c :: t ∧ isBlank c = false) ∧
        Body.Ends Body.Chars (close? o.name) o.body (o.closer ++ rest) rest) ∨
      (AllBlank o.body ∧ Body.shortest (close? o.name)
        (Text.trimStart (o.blank ++ o.body ++ o.closer ++ rest)) = none) := by
  have hfound := h.found
  rw [List.append_assoc] at hfound
  rcases Body.find_cases Body.shortest_eq_some hfound with hends | ⟨⟨c, hbody, hc⟩, hrest, hnone, -⟩
  · exact .inl hends
  · have hblank : AllBlank (o.blank ++ o.body) :=
      h.blank_allBlank.append (by rw [hbody]; simpa [AllBlank] using hc)
    refine .inr ⟨fun d hd => hblank d (List.mem_append_right _ hd), ?_⟩
    rwa [List.append_assoc, Text.trimStart_of_blank hblank, hrest]

/-- A body that ends at the first closer holds no closing word behind its start, even
together with what stands in front of the word that closes it. -/
theorem no_word_behind_start {name body before word rest t p q : Text}
    (hends : Body.Ends Body.Chars (close? name) body (before ++ rest) t) (hw : Word name word)
    (hnamed : isName name = true) (hbefore : '@' ∉ before) (hsplit : body ++ before = p ++ word ++ q) :
    p = [] := by
  obtain ⟨t, rfl, -, -⟩ := hw.exists_eq_cons hnamed
  rw [List.append_assoc] at hsplit
  rcases List.append_eq_append_iff.mp hsplit with ⟨e, -, rfl⟩ | ⟨e, hbody, he⟩
  · simp at hbefore
  · by_contra hp
    have hne : e ≠ [] := by
      rintro rfl
      rw [List.nil_append] at he
      simp [← he] at hbefore
    have hnone := hends.first p e hbody trivial trivial hp hne
    have hsome : (close? name (e ++ (before ++ rest))).isSome = true := by
      rw [← List.append_assoc, ← he]
      exact close?_isSome_iff.mpr ⟨[], '@' :: t, q ++ rest, .nil, hw, by simp⟩
    rw [hnone] at hsome
    cases hsome

/-- A block holds a closing word only where its body begins. -/
theorem holdsWord_inside_iff {o : Occurrence} {rest : Text} (h : reading.Stands o rest) :
    HoldsWord o.name o.inside ↔ BeginsWithWord o.name (Text.trimStart o.inside) := by
  constructor
  · rintro ⟨word, hw, hinside⟩
    obtain ⟨before, word', after, hbefore, -, -, hcloser, hin⟩ := exists_closer h
    have hat := hbefore.notMem.1
    have hblank := h.blank_allBlank
    rw [hin, List.append_assoc] at hinside ⊢
    obtain ⟨p, q, hpq⟩ : word <:+: o.body ++ before := by
      obtain ⟨t, rfl, -, -⟩ := hw.exists_eq_cons h.named
      exact (Text.infix_append_of_notMem (hblank.notMem (by decide)) _).mp hinside
    refine ⟨word, hw, ?_⟩
    rcases body_cases h with ⟨⟨c, s, hcs, hc⟩, hends⟩ | ⟨hbody, -⟩
    · rw [hcloser, List.append_assoc, List.append_assoc] at hends
      obtain rfl := no_word_behind_start hends hw h.named hat hpq.symm
      rw [Text.trimStart_of_blank hblank, hcs, List.cons_append, Text.trimStart_cons hc,
        ← List.cons_append, ← hcs]
      exact ⟨q, hpq⟩
    · have hnot : '@' ∉ o.body ++ before := List.not_mem_append (hbody.notMem (by decide)) hat
      obtain ⟨t, rfl, -, -⟩ := hw.exists_eq_cons h.named
      exact absurd (hpq ▸ by simp) hnot
  · rintro ⟨word, hw, hinside⟩
    exact ⟨word, hw, hinside.isInfix.trans (List.dropWhile_suffix _).isInfix⟩

/-- A word behind the white space of an opener is inside the block if another follows. -/
theorem holdsWord_inside_of_begins {o : Occurrence} {rest : Text} (h : reading.Stands o rest)
    (hbegins : BeginsWithWord o.name (Text.trimStart (o.blank ++ o.body ++ o.closer ++ rest)))
    (hlater : HoldsWord o.name (Text.trimStart (o.blank ++ o.body ++ o.closer ++ rest)).tail) :
    HoldsWord o.name o.inside := by
  obtain ⟨word, hw, hprefix⟩ := hbegins
  obtain ⟨before, word', after, -, hw', -, hcloser, hin⟩ := exists_closer h
  obtain ⟨t, rfl, -, ht⟩ := hw.exists_eq_cons h.named
  obtain ⟨t', rfl, -, -⟩ := hw'.exists_eq_cons h.named
  rcases body_cases h with ⟨⟨c, b, hcb, hc⟩, -⟩ | ⟨-, hnone⟩
  · rw [hcloser, hcb, List.append_assoc, List.append_assoc, Text.trimStart_of_blank h.blank_allBlank,
      List.cons_append, Text.trimStart_cons hc] at hprefix
    obtain ⟨rfl, hprefix⟩ := List.cons_prefix_cons.mp hprefix
    have hat : '@' ∉ t := fun hmem => absurd (ht _ hmem) (by decide)
    have hinside : t <+: b ++ before := by
      refine Text.prefix_of_notMem (c := '@') (s := t' ++ after ++ rest) hat ?_
      simpa using hprefix
    refine ⟨_, hw, ?_⟩
    rw [hin, hcb, List.append_assoc]
    exact (List.cons_prefix_cons.mpr ⟨rfl, hinside⟩).isInfix.trans (List.suffix_append ..).isInfix
  · exact absurd hlater (shortest_eq_none_iff.mp hnone)

/-! ### All blocks of a text -/

/-- Behind the colon of an opener stands what is inside the block, and then a word. -/
theorem exists_behind {o : Occurrence} {rest : Text} (h : reading.Stands o rest) :
    ∃ word after, Word o.name word ∧
      o.blank ++ o.body ++ o.closer ++ rest = o.inside ++ (word ++ after) := by
  obtain ⟨before, word, after, -, hw, -, hcloser, hin⟩ := exists_closer h
  exact ⟨word, after ++ rest, hw, by simp [hcloser, hin]⟩

/-- A block stands behind an opener that the scan tries. -/
theorem exists_opener {s : Text} {o : Occurrence} (h : o ∈ (Scan.blocks s).occurrences) :
    ∃ t rest, Scan.Reaches at? s t ∧ reading.Stands o rest ∧
      open? t = some (o.name, o.blank ++ o.body ++ o.closer ++ rest) := by
  obtain ⟨t, hreaches, hat⟩ := (Scan.mem_occurrences_iff (r := reading)).mp h
  obtain ⟨rest, rfl, hstands⟩ := reading.at?_eq_some_iff.mp hat
  exact ⟨_, rest, hreaches, hstands, hstands.open?_eq⟩

/-- Where an opener opens a block, the scan finds it. -/
theorem exists_block {s t name rest : Text} (hreaches : Scan.Reaches at? s t)
    (hopen : open? t = some (name, rest)) (h : HoldsWord name rest.tail) :
    ∃ o ∈ (Scan.blocks s).occurrences, ∃ after, reading.Stands o after ∧ o.name = name ∧
      o.blank ++ o.body ++ o.closer ++ after = rest := by
  obtain ⟨o, hat⟩ := Option.isSome_iff_exists.mp ((at?_isSome_iff hopen).mpr h)
  obtain ⟨after, rfl, hstands⟩ := reading.at?_eq_some_iff.mp hat
  obtain ⟨hname, hrest⟩ := Prod.mk.inj (Option.some.inj (hstands.open?_eq.symm.trans hopen))
  exact ⟨o, (Scan.mem_occurrences_iff (r := reading)).mpr ⟨_, hreaches, hat⟩, after, hstands, hname,
    hrest⟩

/-- **What line openers do not open.** No block has a second colon behind its opener
exactly when no opener of a line directive that the scan tries has a closing word of
its name anywhere behind it. -/
theorem no_line_opened_iff (s : Text) :
    (∀ o ∈ (Scan.blocks s).occurrences, o.inside.head? ≠ some ':') ↔
      ∀ t name rest, Scan.Reaches at? s t → open? t = some (name, ':' :: rest) →
        ¬ HoldsWord name rest := by
  constructor
  · intro h t name rest hreaches hopen hword
    obtain ⟨o, hmem, after, hstands, -, hrest⟩ := exists_block hreaches hopen hword
    obtain ⟨word, t', -, hbehind⟩ := exists_behind hstands
    obtain ⟨c, b, hcb⟩ := List.exists_cons_of_ne_nil (inside_ne_nil hstands)
    refine h o hmem ?_
    rw [hbehind, hcb] at hrest
    rw [hcb, List.head?_cons, (List.cons.inj hrest).1]
  · intro h o hmem hhead
    obtain ⟨t, rest, hreaches, hstands, hopen⟩ := exists_opener hmem
    obtain ⟨word, after, hw, hbehind⟩ := exists_behind hstands
    obtain ⟨c, b, hcb⟩ := List.exists_cons_of_ne_nil (inside_ne_nil hstands)
    rw [hcb, List.head?_cons, Option.some.injEq] at hhead
    rw [hbehind, hcb, hhead] at hopen
    exact h t o.name (b ++ (word ++ after)) hreaches hopen ⟨word, hw, b, after, by simp⟩

/-- The opener of a line directive that a closing word follows further on. -/
theorem line_opens_block : ¬ ∀ s, ∀ o ∈ (Scan.blocks s).occurrences, o.inside.head? ≠ some ':' := by
  intro h
  let o : Occurrence := ⟨['@', 's', 'e', 't', ':'], ['s', 'e', 't'], [], [':', ' ', '2', ';', ' ', 'x'],
    [' ', '@', 'e', 'n', 'd', '-', 's', 'e', 't']⟩
  have hmem : o ∈ (Scan.blocks o.text).occurrences :=
    (Scan.mem_occurrences_iff (r := reading)).mpr ⟨o.text, .here _, by decide⟩
  exact h o.text o hmem (by decide)

/-- **Where blocks end.** A closing word stands inside a block only at once or behind
white space, and none stands inside any block exactly when no opener that the scan
tries has such a word behind it and another one further on. -/
theorem ends_at_first_word_iff (s : Text) :
    (∀ o ∈ (Scan.blocks s).occurrences,
      HoldsWord o.name o.inside ↔ BeginsWithWord o.name (Text.trimStart o.inside)) ∧
    ((∀ o ∈ (Scan.blocks s).occurrences, ¬ HoldsWord o.name o.inside) ↔
      ∀ t name rest, Scan.Reaches at? s t → open? t = some (name, rest) →
        BeginsWithWord name (Text.trimStart rest) → ¬ HoldsWord name (Text.trimStart rest).tail) := by
  refine ⟨fun o hmem => ?_, fun h t name rest hreaches hopen hbegins hlater => ?_,
    fun h o hmem hinside => ?_⟩
  · obtain ⟨t, rest, -, hstands, -⟩ := exists_opener hmem
    exact holdsWord_inside_iff hstands
  · have hsuffix := Text.tail_trimStart_suffix rest
    obtain ⟨o, hmem, after, hstands, rfl, rfl⟩ :=
      exists_block hreaches hopen (hlater.mono hsuffix.isInfix)
    exact h o hmem (holdsWord_inside_of_begins hstands hbegins hlater)
  · obtain ⟨t, rest, hreaches, hstands, hopen⟩ := exists_opener hmem
    obtain ⟨word, after, hw, hbehind⟩ := exists_behind hstands
    obtain ⟨word', hw', hbegins⟩ := (holdsWord_inside_iff hstands).mp hinside
    obtain ⟨c, b, hcb⟩ := List.exists_cons_of_ne_nil (hbegins.ne_nil hw'.ne_nil)
    have htrim : Text.trimStart (o.inside ++ (word ++ after)) = c :: (b ++ (word ++ after)) := by
      rw [Text.trimStart_append ((hw.firm hstands.named).trimStart_append after), hcb, List.cons_append]
    rw [hbehind] at hopen
    refine h t o.name _ hreaches hopen ⟨word', hw', ?_⟩ ⟨word, hw, ?_⟩
    · rw [htrim, ← List.cons_append, ← hcb]
      exact hbegins.trans (List.prefix_append _ _)
    · rw [htrim]
      exact ⟨b, after, by simp⟩

/-- A block that is closed behind white space and closed once more. -/
theorem runs_past_closing_word :
    ¬ ∀ s, ∀ o ∈ (Scan.blocks s).occurrences, ¬ HoldsWord o.name o.inside := by
  intro h
  let o : Occurrence := ⟨['@', 'a', 'a', ':'], ['a', 'a'], [' '],
    ['@', 'e', 'n', 'd', '-', 'a', 'a', ' ', 'x'], [' ', '@', 'e', 'n', 'd', '-', 'a', 'a']⟩
  have hmem : o ∈ (Scan.blocks o.text).occurrences :=
    (Scan.mem_occurrences_iff (r := reading)).mpr ⟨o.text, .here _, by decide⟩
  exact h o.text o hmem ⟨_, .same, by decide⟩

end Directives.Block
