import Directives.Proofs.Extent

/-! The name that closes a block.

What closes a block is a closing word, and where it stands is said by `EndsBehind`
without the reader: one place behind an opener, if any (`EndsBehind.unique`). The
word is its `@end-` and the name of the block, or else `command`; what stands behind
that name is not looked at. So a block is closed in full exactly where the first
closing word is no beginning of a longer name, and where `command` is not taken for
a name that it begins with (`closed_in_full_iff`). -/
namespace Directives.Block

open Text (AllBlank fromAt byteSize)

/-! ### Where a block ends -/

/-- With `inside` and then `behind` after the colon of an opener, the block ends in front
of `behind`: there a closing word stands, and none stands earlier but where the body
begins. In front of a body there may be white space; it is all of the inside only if no
closing word stands further on. -/
structure EndsBehind (name inside behind : Text) : Prop where
  ne_nil : inside ≠ []
  closed : BeginsWithWord name behind
  earlier : ¬ HoldsWord name (Text.trimStart inside).tail
  later : AllBlank inside → ¬ HoldsWord name behind.tail

theorem BeginsWithWord.exists_cons {name s : Text} (h : BeginsWithWord name s) (hname : isName name = true) :
    ∃ t u, (∀ c ∈ t, Name.isChar c = true) ∧ Word name ('@' :: t) ∧ s = '@' :: (t ++ u) := by
  obtain ⟨word, hw, u, rfl⟩ := h
  obtain ⟨t, rfl, -, ht⟩ := hw.exists_eq_cons hname
  exact ⟨t, u, ht, hw, rfl⟩

/-- Of two places the one further on has a closing word in front of it. -/
theorem EndsBehind.eq_nil {name inside more behind : Text} (hname : isName name = true)
    (h : EndsBehind name inside (more ++ behind)) (h' : EndsBehind name (inside ++ more) behind) :
    more = [] := by
  cases more with
  | nil => rfl
  | cons c more =>
    exfalso
    obtain ⟨t, u, ht, hw, hfirst⟩ := h.closed.exists_cons hname
    obtain ⟨t', u', -, hw', rfl⟩ := h'.closed.exists_cons hname
    obtain ⟨rfl, hsplit⟩ := List.cons.inj hfirst
    have hmore : t <+: more := by
      have hat : '@' ∉ t := fun hmem => absurd (ht _ hmem) (by decide)
      exact Text.prefix_of_notMem hat ⟨u, hsplit.symm⟩
    by_cases hblank : AllBlank inside
    · exact h.later hblank ⟨_, hw', more, u', by simp⟩
    · have htrim : Text.trimStart inside ≠ [] := fun hnil => hblank (Text.trimStart_eq_nil_iff.mp hnil)
      obtain ⟨d, e, hde⟩ := List.exists_cons_of_ne_nil htrim
      have hstart : Text.trimStart (inside ++ '@' :: more) = d :: (e ++ '@' :: more) := by
        rw [Text.trimStart_append (Text.trimStart_cons (by decide) more), hde, List.cons_append]
      apply h'.earlier
      rw [hstart, List.tail_cons]
      refine ⟨_, hw, ?_⟩
      exact (List.cons_prefix_cons.mpr ⟨rfl, hmore⟩).isInfix.trans (List.suffix_append ..).isInfix

/-- Behind an opener a block ends in one place. -/
theorem EndsBehind.unique {name inside inside' behind behind' : Text} (hname : isName name = true)
    (h : EndsBehind name inside behind) (h' : EndsBehind name inside' behind')
    (hsplit : inside ++ behind = inside' ++ behind') : inside = inside' ∧ behind = behind' := by
  rcases List.append_eq_append_iff.mp hsplit with ⟨more, rfl, rfl⟩ | ⟨more, rfl, rfl⟩
  · obtain rfl := h.eq_nil hname h'
    simp
  · obtain rfl := h'.eq_nil hname h
    simp

/-- Behind the colon of an opener stands what is inside the block, and then its `@end-`. -/
theorem behind_eq {o : Occurrence} {rest : Text} (h : reading.Stands o rest) :
    o.blank ++ o.body ++ o.closer ++ rest = o.inside ++ fromAt (o.closer ++ rest) := by
  obtain ⟨before, word, after, hbefore, hw, -, hcloser, hin⟩ := exists_closer h
  obtain ⟨t, rfl, -, -⟩ := hw.exists_eq_cons h.named
  rw [hin, hcloser, List.append_assoc before, List.append_assoc before,
    Text.fromAt_append hbefore.notMem.1, List.cons_append, List.cons_append, Text.fromAt_at]
  simp

/-- A block that is found ends where it should. -/
theorem endsBehind_of_stands {o : Occurrence} {rest : Text} (h : reading.Stands o rest) :
    EndsBehind o.name o.inside (fromAt (o.closer ++ rest)) := by
  obtain ⟨before, word, after, hbefore, hw, -, hcloser, hin⟩ := exists_closer h
  obtain ⟨t, rfl, -, ht⟩ := hw.exists_eq_cons h.named
  have hat := hbefore.notMem.1
  have hfrom : fromAt (o.closer ++ rest) = '@' :: (t ++ (after ++ rest)) := by
    rw [hcloser, List.append_assoc, List.append_assoc, Text.fromAt_append hat, List.cons_append,
      Text.fromAt_at]
  refine ⟨inside_ne_nil h, ⟨_, hw, after ++ rest, hfrom.symm⟩, ?_, ?_⟩
  · rintro ⟨word', hw', p, q, hpq⟩
    rcases body_cases h with ⟨⟨c, b, hcb, hc⟩, hends⟩ | ⟨hbody, -⟩
    · have htrim : Text.trimStart o.inside = o.body ++ before := by
        rw [hin, List.append_assoc, Text.trimStart_of_blank h.blank_allBlank, hcb, List.cons_append,
          Text.trimStart_cons hc]
      rw [htrim, hcb, List.cons_append, List.tail_cons] at hpq
      rw [hcloser, List.append_assoc, List.append_assoc] at hends
      have hp := no_word_behind_start (p := c :: p) hends hw' h.named hat
        (by rw [hcb, List.cons_append, ← hpq]; rfl)
      exact List.cons_ne_nil c p hp
    · have hnot : '@' ∉ (Text.trimStart o.inside).tail := by
        intro hmem
        have hmem := (List.dropWhile_suffix _).mem (List.mem_of_mem_tail hmem)
        rw [hin] at hmem
        simp [h.blank_allBlank.notMem (c := '@') (by decide), hbody.notMem (c := '@') (by decide),
          hat] at hmem
      obtain ⟨t', rfl, -, -⟩ := hw'.exists_eq_cons h.named
      exact hnot (hpq ▸ by simp)
  · intro hblank hlater
    rcases body_cases h with ⟨⟨c, b, hcb, hc⟩, -⟩ | ⟨-, hnone⟩
    · refine absurd hc ?_
      simp [hblank c (by simp [hin, hcb])]
    · rw [behind_eq h, hfrom, Text.trimStart_of_blank hblank, Text.trimStart_cons (by decide)] at hnone
      rw [hfrom] at hlater
      exact shortest_eq_none_iff.mp hnone hlater

/-! ### The name behind `@end-` -/

/-- The name characters behind the `@end-` that the text begins with. -/
def nameRun (behind : Text) : Text :=
  (behind.drop closingWord.length).takeWhile Name.isChar

/-- The block `o`, in front of `rest`, is closed by a whole name, its own or `command`, and
takes all of that name along. -/
structure ClosedInFull (o : Occurrence) (rest : Text) : Prop where
  full : nameRun (fromAt (o.closer ++ rest)) = o.name ∨ nameRun (fromAt (o.closer ++ rest)) = anyName
  taken : closingWord ++ nameRun (fromAt (o.closer ++ rest)) <+: fromAt o.closer

/-- A closer is `@end-`, a name and markers. The name is that of the block if it stands
there, and else `command`. -/
theorem exists_tag {o : Occurrence} {rest : Text} (h : reading.Stands o rest) :
    ∃ tag after, Closing after ∧ fromAt o.closer = closingWord ++ (tag ++ after) ∧
      fromAt (o.closer ++ rest) = closingWord ++ (tag ++ (after ++ rest)) ∧
      (∀ c ∈ tag, Name.isChar c = true) ∧
      (tag = o.name ∨ tag = anyName ∧ ¬ o.name <+: tag ++ (after ++ rest)) := by
  have hclose := close?_closer h
  simp only [close?, Option.bind_eq_bind, Option.bind_eq_some_iff, Option.some.injEq] at hclose
  obtain ⟨r, hskip, t, htag, hrest⟩ := hclose
  obtain ⟨before, hbefore, hr⟩ := skipClosingWord?_eq_some_iff.mp hskip
  obtain ⟨after, hafter, ht⟩ := exists_skipClosingMarkers t
  rw [hrest] at ht
  have hclosed : ∀ tag, r = tag ++ t → fromAt o.closer = closingWord ++ (tag ++ after) ∧
      fromAt (o.closer ++ rest) = closingWord ++ (tag ++ (after ++ rest)) := by
    rintro tag rfl
    have hcloser : o.closer = before ++ (closingWord ++ (tag ++ after)) := by
      rw [ht] at hr
      refine (List.append_left_inj rest).mp ?_
      rw [hr]
      simp
    have hat := hbefore.notMem.1
    rw [hr, hcloser, ht, Text.fromAt_append hat, Text.fromAt_append hat]
    exact ⟨rfl, rfl⟩
  cases hsame : Text.after? o.name r with
  | some u =>
    rw [hsame] at htag
    cases htag
    obtain ⟨hone, htwo⟩ := hclosed o.name (Text.after?_eq_some_iff.mp hsame)
    exact ⟨o.name, after, hafter, hone, htwo, isChar_of_isName h.named, .inl rfl⟩
  | none =>
    rw [hsame] at htag
    have hany := Text.after?_eq_some_iff.mp htag
    obtain ⟨hone, htwo⟩ := hclosed anyName hany
    refine ⟨anyName, after, hafter, hone, htwo, isChar_of_isName (by decide), .inr ⟨rfl, ?_⟩⟩
    rintro ⟨u, hu⟩
    rw [← ht, ← hany] at hu
    rw [Text.after?_eq_some_iff.mpr hu.symm] at hsame
    cases hsame

/-- Markers behind a closer begin with no letter or digit. -/
theorem Closing.first {c : Char} {s : Text} (h : Closing (c :: s)) : Name.isLetterOrDigit c = false := by
  have hblank : ∀ d, isBlank d = true → Name.isLetterOrDigit d = false := by
    intro d hd
    cases hc : Name.isLetterOrDigit d with
    | false => rfl
    | true =>
      have hchar : Name.isChar d = true := by simp [Name.isChar, hc]
      rw [Name.not_blank_of_isChar hchar] at hd
      cases hd
  obtain ⟨star, html, hs, hh, hsplit⟩ := h
  cases hs with
  | none =>
    cases hh with
    | none => cases hsplit
    | @some before behind hb _ =>
      cases before with
      | nil =>
        rw [(List.cons.inj hsplit).1]
        rfl
      | cons d before =>
        rw [(List.cons.inj hsplit).1]
        exact hblank d (hb d (List.mem_cons_self ..))
  | @some before behind hb _ =>
    cases before with
    | nil =>
      rw [(List.cons.inj hsplit).1]
      rfl
    | cons d before =>
      rw [(List.cons.inj hsplit).1]
      exact hblank d (hb d (List.mem_cons_self ..))

/-- The name characters behind an `@end-` are its name and then what more of them follow. -/
theorem exists_nameRun {s tag more : Text} (hs : s = closingWord ++ (tag ++ more))
    (hchars : ∀ c ∈ tag, Name.isChar c = true) : ∃ run, run <+: more ∧ nameRun s = tag ++ run := by
  refine ⟨_, List.takeWhile_prefix Name.isChar, ?_⟩
  rw [hs, nameRun, List.drop_left, List.takeWhile_append_of_pos hchars]

/-- Closed in full, said of the text behind the opener alone. -/
theorem closedInFull_iff {o : Occurrence} {rest : Text} (h : reading.Stands o rest) :
    ClosedInFull o rest ↔ nameRun (fromAt (o.closer ++ rest)) = o.name ∨
      nameRun (fromAt (o.closer ++ rest)) = anyName ∧ ¬ o.name <+: anyName := by
  obtain ⟨tag, after, hafter, hcloser, hfrom, hchars, htag⟩ := exists_tag h
  obtain ⟨more, hmore, hrun⟩ := exists_nameRun hfrom hchars
  constructor
  · rintro ⟨hfull, htaken⟩
    rw [hrun] at hfull htaken ⊢
    rw [hcloser, List.prefix_append_right_inj, List.prefix_append_right_inj] at htaken
    rcases hfull with hsame | hany
    · exact .inl hsame
    · by_cases hbegins : o.name <+: anyName
      · rcases htag with rfl | ⟨rfl, hnot⟩
        · -- behind a name that `command` begins with no markers can stand
          cases more with
          | nil => exact .inl (List.append_nil _)
          | cons c more =>
            obtain ⟨u, rfl⟩ := htaken
            have hc : Name.isLetterOrDigit c = true := by
              have hmem : c ∈ anyName := hany ▸ by simp
              exact List.all_eq_true.mp (show anyName.all Name.isLetterOrDigit = true by decide) c hmem
            rw [List.cons_append] at hafter
            rw [hafter.first] at hc
            cases hc
        · exact absurd (hbegins.trans (List.prefix_append ..)) hnot
      · exact .inr ⟨hany, hbegins⟩
  · rw [hrun]
    have htaken : more = [] → ClosedInFull o rest := by
      rintro rfl
      rw [List.append_nil] at hrun
      refine ⟨?_, ?_⟩
      · rw [hrun]
        exact htag.imp id And.left
      · rw [hrun, hcloser, List.prefix_append_right_inj]
        exact List.prefix_append ..
    rintro (hsame | ⟨hany, hnot⟩)
    · rcases htag with rfl | ⟨rfl, hnot⟩
      · exact htaken (by simpa using hsame)
      · refine absurd ?_ hnot
        rw [← hsame, List.prefix_append_right_inj]
        exact hmore
    · rcases htag with rfl | ⟨rfl, -⟩
      · exact absurd ⟨more, hany⟩ hnot
      · exact htaken (by simpa using hany)

/-! ### All blocks of a text -/

/-- Where a block ends, the scan finds it, if its opener is tried. -/
theorem exists_located {s t name inside behind : Text} (hreaches : Scan.Reaches at? s t)
    (hopen : open? t = some (name, inside ++ behind)) (hends : EndsBehind name inside behind) :
    ∃ before o rest, (byteSize before, o) ∈ (Scan.blocks s).located ∧ s = before ++ (o.text ++ rest) ∧
      reading.Stands o rest ∧ o.name = name ∧ fromAt (o.closer ++ rest) = behind := by
  have hword : HoldsWord name (inside ++ behind).tail := by
    obtain ⟨c, e, rfl⟩ := List.exists_cons_of_ne_nil hends.ne_nil
    obtain ⟨word, hw, hbegins⟩ := hends.closed
    exact ⟨word, hw, hbegins.isInfix.trans (List.suffix_append e behind).isInfix⟩
  obtain ⟨o, rest, rfl, hstands⟩ := reading.isSome_at?_iff.mp ((at?_isSome_iff hopen).mpr hword)
  obtain ⟨rfl, hbehind⟩ := Prod.mk.inj (Option.some.inj (hstands.open?_eq.symm.trans hopen))
  obtain ⟨before, rfl⟩ := hreaches.exists_append
  have hmem : (byteSize before, o) ∈ (Scan.blocks (before ++ (o.text ++ rest))).located :=
    (Scan.mem_located_iff (r := reading)).mpr ⟨before, rest, rfl, rfl, hstands, hreaches⟩
  refine ⟨before, o, rest, hmem, rfl, hstands, rfl, ?_⟩
  rw [behind_eq hstands] at hbehind
  exact ((endsBehind_of_stands hstands).unique hstands.named hends hbehind).2

/-- **What closes a block.** A closer is `@end-` and a name, that of the block or
`command`, which more name characters may follow. Every block is closed in full exactly
when, wherever an opener that the scan tries has its block end, the name characters
behind the `@end-` are its name, or are `command` and its name is no beginning of that. -/
theorem closed_in_full_iff (s : Text) :
    (∀ before o rest, (byteSize before, o) ∈ (Scan.blocks s).located → s = before ++ (o.text ++ rest) →
      ∃ tag after, (tag = o.name ∨ tag = anyName) ∧ Closing after ∧
        fromAt o.closer = closingWord ++ (tag ++ after) ∧
        tag <+: nameRun (fromAt (o.closer ++ rest))) ∧
    ((∀ before o rest, (byteSize before, o) ∈ (Scan.blocks s).located → s = before ++ (o.text ++ rest) →
      ClosedInFull o rest) ↔
      ∀ t name inside behind, Scan.Reaches at? s t → open? t = some (name, inside ++ behind) →
        EndsBehind name inside behind →
        nameRun behind = name ∨ nameRun behind = anyName ∧ ¬ name <+: anyName) := by
  have hfind : ∀ before o rest, (byteSize before, o) ∈ (Scan.blocks s).located →
      s = before ++ (o.text ++ rest) → reading.Stands o rest ∧ Scan.Reaches at? s (o.text ++ rest) := by
    intro before o rest hmem hs
    obtain ⟨before', rest', hs', hsize, hstands, hreaches⟩ :=
      (Scan.mem_located_iff (r := reading)).mp hmem
    obtain ⟨rfl, hrest⟩ := Text.append_inj_of_byteSize (hs.symm.trans hs') hsize
    rw [List.append_cancel_left hrest]
    exact ⟨hstands, hreaches⟩
  refine ⟨fun before o rest hmem hs => ?_, fun h t name inside behind hreaches hopen hends => ?_,
    fun h before o rest hmem hs => ?_⟩
  · obtain ⟨hstands, -⟩ := hfind before o rest hmem hs
    obtain ⟨tag, after, hafter, hcloser, hfrom, hchars, htag⟩ := exists_tag hstands
    obtain ⟨run, -, hrun⟩ := exists_nameRun hfrom hchars
    exact ⟨tag, after, htag.imp id And.left, hafter, hcloser, run, hrun.symm⟩
  · obtain ⟨before, o, rest, hmem, hs, hstands, rfl, rfl⟩ := exists_located hreaches hopen hends
    exact (closedInFull_iff hstands).mp (h before o rest hmem hs)
  · obtain ⟨hstands, hreaches⟩ := hfind before o rest hmem hs
    have hopen := hstands.open?_eq
    rw [behind_eq hstands] at hopen
    exact (closedInFull_iff hstands).mpr
      (h _ o.name o.inside _ hreaches hopen (endsBehind_of_stands hstands))

/-- A directive read at the start of a text that it does not fill. -/
theorem mem_located_of_at? {o : Occurrence} {rest : Text} (h : at? (o.text ++ rest) = some o) :
    (byteSize [], o) ∈ (Scan.blocks (o.text ++ rest)).located := by
  obtain ⟨rest', hrest, hstands⟩ := reading.at?_eq_some_iff.mp h
  obtain rfl := List.append_cancel_left hrest
  exact (Scan.mem_located_iff (r := reading)).mpr ⟨[], rest, rfl, rfl, hstands, .here _⟩

/-- The beginning of a longer name closes a block, and a name that `command` begins with
leaves the end of `command` behind. -/
theorem closed_by_longer_name :
    (¬ ∀ s before o rest, (byteSize before, o) ∈ (Scan.blocks s).located →
      s = before ++ (o.text ++ rest) →
      nameRun (fromAt (o.closer ++ rest)) = o.name ∨ nameRun (fromAt (o.closer ++ rest)) = anyName) ∧
    ¬ ∀ s before o rest, (byteSize before, o) ∈ (Scan.blocks s).located →
      s = before ++ (o.text ++ rest) →
      closingWord ++ nameRun (fromAt (o.closer ++ rest)) <+: fromAt o.closer := by
  constructor
  · intro h
    let o : Occurrence := ⟨['@', 'f', 'o', 'o', ':'], ['f', 'o', 'o'], [' '], ['x'],
      [' ', '@', 'e', 'n', 'd', '-', 'f', 'o', 'o']⟩
    have hat : at? (o.text ++ ['d', 's']) = some o := by decide
    exact absurd (h _ [] o ['d', 's'] (mem_located_of_at? hat) rfl) (by decide)
  · intro h
    let o : Occurrence := ⟨['@', 'c', 'o', 'm', ':'], ['c', 'o', 'm'], [' '], ['x'],
      [' ', '@', 'e', 'n', 'd', '-', 'c', 'o', 'm']⟩
    have hat : at? (o.text ++ ['m', 'a', 'n', 'd']) = some o := by decide
    exact absurd (h _ [] o ['m', 'a', 'n', 'd'] (mem_located_of_at? hat) rfl) (by decide)

end Directives.Block
