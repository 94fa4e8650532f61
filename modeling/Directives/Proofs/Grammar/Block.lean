import Directives.Grammar.Whole
import Directives.Proofs.Grammar.Reading

/-! Block directives, said without the readers.

An opener is `Opening` markers, `@`, a name and a colon (`open?_eq_some_iff`). A
closer is a text of its own (`Closer`): the strict grammar asks for one up to the
end of the text (`closes_iff`), the scan for one at the start of what follows
(`close?_isSome_iff`). A text has the shape of a block (`Shaped`) when it is an opener,
an inside and what is left of a closer behind its white space and markers; such a
text stays one when it is trimmed or loses its tabs. -/
namespace Directives.Block

open Text (AllBlank)

/-! ### The parts of a block -/

/-- The comment markers in front of an opener. -/
def Opening (s : Text) : Prop :=
  ∃ html comment, Marker.Leading [Marker.htmlOpen] html ∧
    Marker.Leading [Marker.lineOpen, Marker.starOpen] comment ∧ s = html ++ comment

/-- White space and a marker in front of the word of a closer. -/
def BeforeWord (s : Text) : Prop :=
  ∃ blank marker, AllBlank blank ∧ Marker.Leading [Marker.lineOpen] marker ∧ s = blank ++ marker

/-- The comment markers behind a closer. -/
def Closing (s : Text) : Prop :=
  ∃ star html, Marker.Floating Marker.starClose star ∧ Marker.Floating Marker.htmlClose html ∧
    s = star ++ html

/-- The word of a closer and the name behind it: that of the block or the one that
closes every block. -/
inductive Word (name : Text) : Text → Prop where
  | same : Word name (closingWord ++ name)
  | any : Word name (closingWord ++ anyName)

/-- All that ends the body of a block. -/
structure Closer (name s : Text) : Prop where
  split : ∃ before word after, BeforeWord before ∧ Word name word ∧ Closing after ∧
    s = before ++ word ++ after

/-! ### Openers -/

theorem Opening.notMem {s : Text} (h : Opening s) : '@' ∉ s := by
  obtain ⟨html, comment, hh, hc, rfl⟩ := h
  exact List.not_mem_append (hh.notMem (by decide) (by decide)) (hc.notMem (by decide) (by decide))

theorem Opening.withoutTabs {s : Text} (h : Opening s) : Opening (Text.withoutTabs s) := by
  obtain ⟨html, comment, hh, hc, rfl⟩ := h
  exact ⟨_, _, hh.withoutTabs (by decide), hc.withoutTabs (by decide), Text.withoutTabs_append ..⟩

theorem Opening.trimStart_eq {s : Text} (h : Opening s) : Text.trimStart s = s := by
  obtain ⟨html, comment, hh, hc, rfl⟩ := h
  cases hh with
  | none =>
    cases hc with
    | none => rfl
    | some hm _ =>
      rw [List.nil_append]
      simp only [List.mem_cons, List.not_mem_nil, or_false] at hm
      rcases hm with rfl | rfl <;> exact Marker.trimStart_marker (by decide) _
  | some hm _ =>
    rw [List.mem_singleton.mp hm, List.append_assoc]
    exact Marker.trimStart_marker (by decide) _

theorem exists_skipMarkers (s : Text) : ∃ markers, Opening markers ∧ s = markers ++ skipMarkers s := by
  obtain ⟨html, hh, hs⟩ := Marker.exists_skip Marker.htmlOpen s
  rw [skipMarkers]
  cases hline : Marker.skip? Marker.lineOpen (Marker.skip Marker.htmlOpen s) with
  | some rest =>
    obtain ⟨comment, hc, hrest⟩ := Marker.skip?_eq_some hline
    refine ⟨html ++ comment, ⟨html, comment, hh, hc.mono (by decide), rfl⟩, ?_⟩
    rw [List.append_assoc, ← hrest]
    exact hs
  | none =>
    obtain ⟨comment, hc, hrest⟩ :=
      Marker.exists_skip Marker.starOpen (Marker.skip Marker.htmlOpen s)
    refine ⟨html ++ comment, ⟨html, comment, hh, hc.mono (by decide), rfl⟩, ?_⟩
    rw [List.append_assoc, ← hrest]
    exact hs

/-- Behind the marker of markup stands no white space and no further such marker. -/
theorem comment_start {comment : Text}
    (h : Marker.Leading [Marker.lineOpen, Marker.starOpen] comment) (t : Text) :
    Text.trimStart (comment ++ '@' :: t) = comment ++ '@' :: t ∧
      Text.after? Marker.htmlOpen (comment ++ '@' :: t) = none := by
  cases h with
  | none => exact ⟨Text.trimStart_cons (by decide) t, rfl⟩
  | some hm _ =>
    rw [List.append_assoc]
    simp only [List.mem_cons, List.not_mem_nil, or_false] at hm
    rcases hm with rfl | rfl <;> exact ⟨Marker.trimStart_marker (by decide) _, rfl⟩

/-- The markers in front of an `@` are passed over. -/
theorem skipMarkers_append {s : Text} (h : Opening s) (t : Text) :
    skipMarkers (s ++ '@' :: t) = '@' :: t := by
  obtain ⟨html, comment, hh, hc, rfl⟩ := h
  obtain ⟨hstart, hhtml⟩ := comment_start hc t
  have hat : Text.trimStart ('@' :: t) = '@' :: t := Text.trimStart_cons (by decide) t
  rw [List.append_assoc, skipMarkers, Marker.skip_append hh hstart hhtml]
  cases hc with
  | none => rfl
  | some hm hb =>
    rw [List.append_assoc]
    simp only [List.mem_cons, List.not_mem_nil, or_false] at hm
    rcases hm with rfl | rfl
    · rw [Marker.skip?_append, Text.trimStart_of_blank hb, hat]
    · have hstar := Marker.skip_append (.some (List.mem_singleton.mpr rfl) hb) hat
        (show Text.after? Marker.starOpen ('@' :: t) = none from rfl)
      rw [List.append_assoc] at hstar
      exact hstar

theorem open?_eq_some_iff {s name rest : Text} :
    open? s = some (name, rest) ↔
      isName name = true ∧ ∃ markers, Opening markers ∧ s = markers ++ '@' :: (name ++ ':' :: rest) := by
  constructor
  · intro h
    simp only [open?, Option.bind_eq_bind, Option.bind_eq_some_iff, Option.some.injEq] at h
    obtain ⟨r, hat, ⟨n, t⟩, hname, u, hcolon, heq⟩ := h
    obtain ⟨rfl, rfl⟩ := Prod.mk.inj heq
    obtain ⟨markers, hm, hs⟩ := exists_skipMarkers s
    obtain ⟨hn, hr, -⟩ := Name.read?_eq_some_iff.mp hname
    have ht : t = [':'] ++ u := Text.after?_eq_some_iff.mp hcolon
    refine ⟨hn, markers, hm, ?_⟩
    rw [hs, Text.after?_eq_some_iff.mp hat, hr, ht]
    rfl
  · rintro ⟨hn, markers, hm, rfl⟩
    have hname : Name.read? (name ++ ':' :: rest) = some (name, ':' :: rest) :=
      Name.read?_eq_some_iff.mpr ⟨hn, rfl, fun c hc => by cases hc; rfl⟩
    simp only [open?, skipMarkers_append hm]
    rw [show Text.after? ['@'] ('@' :: (name ++ ':' :: rest)) = some (name ++ ':' :: rest) from rfl]
    simp only [Option.bind_eq_bind, Option.bind_some, hname]
    rfl

/-! ### Closers -/

theorem BeforeWord.nil : BeforeWord [] :=
  ⟨[], [], Text.allBlank_nil, .none, rfl⟩

theorem BeforeWord.notMem {s : Text} (h : BeforeWord s) : '@' ∉ s ∧ ';' ∉ s := by
  obtain ⟨blank, marker, hb, hm, rfl⟩ := h
  exact ⟨List.not_mem_append (hb.notMem (by decide)) (hm.notMem (by decide) (by decide)),
    List.not_mem_append (hb.notMem (by decide)) (hm.notMem (by decide) (by decide))⟩

theorem BeforeWord.withoutTabs {s : Text} (h : BeforeWord s) : BeforeWord (Text.withoutTabs s) := by
  obtain ⟨blank, marker, hb, hm, rfl⟩ := h
  exact ⟨_, _, hb.withoutTabs, hm.withoutTabs (by decide), Text.withoutTabs_append ..⟩

theorem Closing.notMem {s : Text} (h : Closing s) : '@' ∉ s ∧ ';' ∉ s ∧ ':' ∉ s := by
  obtain ⟨star, html, hs, hh, rfl⟩ := h
  have hnot : ∀ {c}, isBlank c = false → c ∉ Marker.starClose → c ∉ Marker.htmlClose → c ∉ star ++ html :=
    fun hc hstar hhtml => List.not_mem_append (hs.notMem hc hstar) (hh.notMem hc hhtml)
  exact ⟨hnot (by decide) (by decide) (by decide), hnot (by decide) (by decide) (by decide),
    hnot (by decide) (by decide) (by decide)⟩

theorem Closing.withoutTabs {s : Text} (h : Closing s) : Closing (Text.withoutTabs s) := by
  obtain ⟨star, html, hs, hh, rfl⟩ := h
  exact ⟨_, _, hs.withoutTabs (by decide), hh.withoutTabs (by decide), Text.withoutTabs_append ..⟩

theorem Closing.trimEnd {s : Text} (h : Closing s) : Closing (Text.trimEnd s) := by
  obtain ⟨star, html, hs, hh, rfl⟩ := h
  cases hh with
  | none =>
    rw [List.append_nil]
    exact ⟨_, [], hs.trimEnd (by decide), .none, (List.append_nil _).symm⟩
  | @some before behind hb ha =>
    refine ⟨star, before ++ Marker.htmlClose ++ [], hs, .some hb Text.allBlank_nil, ?_⟩
    rw [← List.append_assoc, ← List.append_assoc, Marker.trimEnd_floating (by decide) ha,
      List.append_nil, List.append_assoc]

/-- A word is an `@` and name characters. -/
theorem Word.exists_eq_cons {name word : Text} (h : Word name word) (hname : isName name = true) :
    ∃ t, word = '@' :: t ∧ t ≠ [] ∧ ∀ c ∈ t, Name.isChar c = true := by
  have hend : ∀ w : Text, isName w = true → ∀ c ∈ closingWord.tail ++ w, Name.isChar c = true := by
    intro w hw c hc
    rcases List.mem_append.mp hc with hc | hc
    · exact List.all_eq_true.mp (show closingWord.tail.all Name.isChar = true by decide) c hc
    · exact isChar_of_isName hw c hc
  cases h with
  | same => exact ⟨closingWord.tail ++ name, rfl, by simp [closingWord], hend name hname⟩
  | any => exact ⟨closingWord.tail ++ anyName, rfl, by simp [closingWord], hend anyName (by decide)⟩

theorem Word.ne_nil {name word : Text} (h : Word name word) : word ≠ [] := by
  cases h <;> exact List.cons_ne_nil _ _

theorem Word.notMem {name word : Text} (h : Word name word) (hname : isName name = true) {c : Char}
    (hc : Name.isChar c = false) (hat : c ≠ '@') : c ∉ word := by
  obtain ⟨t, rfl, -, ht⟩ := h.exists_eq_cons hname
  intro hmem
  rcases List.mem_cons.mp hmem with rfl | hmem
  · exact hat rfl
  · rw [ht c hmem] at hc
    cases hc

theorem Word.firm {name word : Text} (h : Word name word) (hname : isName name = true) :
    Text.Firm word := by
  obtain ⟨t, rfl, hne, ht⟩ := h.exists_eq_cons hname
  have hfirm := Text.firm_of_not_blank hne fun c hc => Name.not_blank_of_isChar (ht c hc)
  exact hfirm.cons_append (by decide) []

theorem skipClosingWord?_eq_some_iff {s rest : Text} :
    skipClosingWord? s = some rest ↔
      ∃ before, BeforeWord before ∧ s = before ++ (closingWord ++ rest) := by
  constructor
  · intro h
    obtain ⟨marker, hm, hs⟩ := Marker.exists_skip Marker.lineOpen (Text.trimStart s)
    refine ⟨Text.leadingBlank s ++ marker, ⟨_, _, Text.leadingBlank_allBlank s, hm, rfl⟩, ?_⟩
    rw [← Text.after?_eq_some_iff.mp h, List.append_assoc, ← hs,
      Text.leadingBlank_append_trimStart]
  · rintro ⟨before, ⟨blank, marker, hb, hm, rfl⟩, rfl⟩
    have hat : Text.trimStart (closingWord ++ rest) = closingWord ++ rest :=
      Text.trimStart_cons (by decide) _
    have hstart : Text.trimStart (marker ++ (closingWord ++ rest)) = marker ++ (closingWord ++ rest) :=
      (comment_start (hm.mono (by decide)) (closingWord.tail ++ rest)).1
    rw [skipClosingWord?, List.append_assoc, Text.trimStart_of_blank hb, hstart,
      Marker.skip_append hm hat rfl]
    exact Text.after?_eq_some_iff.mpr rfl

theorem exists_skipClosingMarkers (s : Text) :
    ∃ after, Closing after ∧ s = after ++ skipClosingMarkers s := by
  obtain ⟨star, hs, hstar⟩ := Marker.exists_skipFloating Marker.starClose s
  obtain ⟨html, hh, hhtml⟩ :=
    Marker.exists_skipFloating Marker.htmlClose (Marker.skipFloating Marker.starClose s)
  refine ⟨star ++ html, ⟨star, html, hs, hh, rfl⟩, ?_⟩
  rw [List.append_assoc, skipClosingMarkers, ← hhtml, ← hstar]

theorem Closing.skipClosingMarkers_eq {s : Text} (h : Closing s) : skipClosingMarkers s = [] := by
  obtain ⟨star, html, hs, hh, rfl⟩ := h
  cases hs with
  | none =>
    cases hh with
    | none => rfl
    | @some before behind hb ha =>
      have hstart : Text.after? Marker.starClose (Text.trimStart (before ++ Marker.htmlClose ++ behind)) = none := by
        rw [List.append_assoc, Text.trimStart_of_blank hb, Marker.trimStart_marker (by decide)]
        rfl
      rw [List.nil_append, skipClosingMarkers, Marker.skipFloating_of_none hstart,
        Marker.skipFloating_append (by decide) hb]
      exact Text.trimStart_eq_nil_iff.mpr ha
  | @some before behind hb ha =>
    rw [skipClosingMarkers, List.append_assoc, Marker.skipFloating_append (by decide) hb,
      Text.trimStart_of_blank ha]
    cases hh with
    | none => rfl
    | @some before' behind' hb' ha' =>
      rw [List.append_assoc, Text.trimStart_of_blank hb', Marker.trimStart_marker (by decide)]
      have hhtml : Marker.skipFloating Marker.htmlClose ([] ++ (Marker.htmlClose ++ behind')) = _ :=
        Marker.skipFloating_append (by decide) Text.allBlank_nil behind'
      rw [List.nil_append] at hhtml
      rw [hhtml]
      exact Text.trimStart_eq_nil_iff.mpr ha'

/-- A closer ends with its name and its markers. -/
theorem after?_word {name rest t : Text}
    (h : (Text.after? name rest <|> Text.after? anyName rest) = some t) :
    ∃ word, Word name word ∧ closingWord ++ rest = word ++ t := by
  cases hsame : Text.after? name rest with
  | some u =>
    rw [hsame] at h
    cases h
    exact ⟨_, .same, by rw [Text.after?_eq_some_iff.mp hsame, List.append_assoc]⟩
  | none =>
    rw [hsame] at h
    exact ⟨_, .any, by rw [Text.after?_eq_some_iff.mp h, List.append_assoc]⟩

theorem close?_eq_some {name s rest : Text} (h : close? name s = some rest) :
    ∃ c, Closer name c ∧ s = c ++ rest := by
  simp only [close?, Option.bind_eq_bind, Option.bind_eq_some_iff] at h
  obtain ⟨r, hskip, t, hword, hrest⟩ := h
  cases hrest
  obtain ⟨before, hbefore, rfl⟩ := skipClosingWord?_eq_some_iff.mp hskip
  obtain ⟨word, hw, hsplit⟩ := after?_word hword
  obtain ⟨after, hafter, ht⟩ := exists_skipClosingMarkers t
  refine ⟨before ++ word ++ after, ⟨before, word, after, hbefore, hw, hafter, rfl⟩, ?_⟩
  rw [hsplit, List.append_assoc, List.append_assoc, ← ht]

/-- The scan sees a closer where white space, a marker and a word stand. -/
theorem close?_isSome_iff {name s : Text} :
    (close? name s).isSome = true ↔
      ∃ before word rest, BeforeWord before ∧ Word name word ∧ s = before ++ (word ++ rest) := by
  constructor
  · intro h
    obtain ⟨rest, hrest⟩ := Option.isSome_iff_exists.mp h
    obtain ⟨c, ⟨before, word, after, hb, hw, -, rfl⟩, hs⟩ := close?_eq_some hrest
    exact ⟨before, word, after ++ rest, hb, hw, by simp [hs]⟩
  · rintro ⟨before, word, rest, hb, hw, rfl⟩
    cases hw with
    | same =>
      have hskip : skipClosingWord? (before ++ (closingWord ++ (name ++ rest))) = some (name ++ rest) :=
        skipClosingWord?_eq_some_iff.mpr ⟨before, hb, rfl⟩
      have hname : Text.after? name (name ++ rest) = some rest := Text.after?_eq_some_iff.mpr rfl
      simp [close?, hskip, hname]
    | any =>
      have hskip :
          skipClosingWord? (before ++ (closingWord ++ (anyName ++ rest))) = some (anyName ++ rest) :=
        skipClosingWord?_eq_some_iff.mpr ⟨before, hb, rfl⟩
      have hany : Text.after? anyName (anyName ++ rest) = some rest := Text.after?_eq_some_iff.mpr rfl
      cases hname : Text.after? name (anyName ++ rest) <;> simp [close?, hskip, hany, hname]

/-- The strict grammar asks for a closer and nothing behind it. -/
theorem closes_iff {name s : Text} : closes name s = true ↔ Closer name s := by
  constructor
  · intro h
    simp only [closes] at h
    split at h
    next rest hskip =>
      obtain ⟨before, hbefore, rfl⟩ := skipClosingWord?_eq_some_iff.mp hskip
      obtain ⟨w, hw, hclosed⟩ := List.any_eq_true.mp h
      have hword : Word name (closingWord ++ w) := by
        simp only [List.mem_cons, List.not_mem_nil, or_false] at hw
        rcases hw with rfl | rfl
        · exact .same
        · exact .any
      split at hclosed
      next t ht =>
        obtain ⟨after, hafter, hsplit⟩ := exists_skipClosingMarkers t
        rw [List.isEmpty_iff.mp hclosed, List.append_nil] at hsplit
        refine ⟨before, closingWord ++ w, t, hbefore, hword, hsplit ▸ hafter, ?_⟩
        rw [Text.after?_eq_some_iff.mp ht, List.append_assoc, List.append_assoc]
      next => cases hclosed
    next => cases h
  · rintro ⟨before, word, after, hbefore, hw, hafter, rfl⟩
    have hclosed : ∀ w, w ∈ [name, anyName] → closes name (before ++ (closingWord ++ (w ++ after))) = true := by
      intro w hmem
      simp only [closes, skipClosingWord?_eq_some_iff.mpr ⟨before, hbefore, rfl⟩]
      refine List.any_eq_true.mpr ⟨w, hmem, ?_⟩
      simp [Text.after?_eq_some_iff.mpr (rfl : w ++ after = w ++ after), hafter.skipClosingMarkers_eq]
    rw [List.append_assoc]
    cases hw with
    | same => exact List.append_assoc closingWord name after ▸ hclosed name (by simp)
    | any => exact List.append_assoc closingWord anyName after ▸ hclosed anyName (by simp)

theorem close?_trimStart (name s : Text) : close? name (Text.trimStart s) = close? name s := by
  simp only [close?, skipClosingWord?, Text.trimStart_trimStart]

theorem closes_trimStart (name s : Text) : closes name (Text.trimStart s) = closes name s := by
  simp only [closes, skipClosingWord?, Text.trimStart_trimStart]

/-! ### Occurrences -/

theorem find_sound {name s : Text} {parts : Body.Parts Text}
    (h : Body.find Body.shortest (close? name) s = some parts) :
    AllBlank parts.blank ∧ parts.body ≠ [] ∧
      ∃ closer, Closer name closer ∧ s = parts.blank ++ parts.body ++ closer ++ parts.closed := by
  obtain ⟨hblank, hbody, rest, rfl, hclose⟩ := Body.find_sound Body.shortest_eq_some h
  obtain ⟨closer, hcloser, rfl⟩ := close?_eq_some hclose
  exact ⟨hblank, hbody, closer, hcloser, (List.append_assoc ..).symm⟩

/-- How a block is read: by definition, `at?` is `reading.at?`. -/
def reading : Reading where
  opening := Opening
  colons := [':']
  open? := open?
  find := fun name => Body.find Body.shortest (close? name)
  at_notMem := Opening.notMem
  open?_eq_some_iff := open?_eq_some_iff
  opening_nil := ⟨[], [], .none, .none, rfl⟩
  find_sound := fun h => by
    obtain ⟨hblank, hbody, closer, -, hs⟩ := find_sound h
    exact ⟨hblank, hbody, closer, hs⟩

/-- What ends a block: white space and a marker, a closing word, markers. -/
theorem exists_closer {o : Occurrence} {rest : Text} (h : reading.Stands o rest) :
    ∃ before word after, BeforeWord before ∧ Word o.name word ∧ Closing after ∧
      o.closer = before ++ word ++ after ∧ o.inside = o.blank ++ o.body ++ before := by
  obtain ⟨-, -, closer, ⟨before, word, after, hb, hw, ha, rfl⟩, hs⟩ := find_sound h.found
  have hcloser : o.closer = before ++ word ++ after :=
    List.append_cancel_left (List.append_cancel_right hs)
  refine ⟨before, word, after, hb, hw, ha, hcloser, ?_⟩
  have hbefore : ∀ c ∈ before, (c != '@') = true := by
    intro c hc
    rw [bne_iff_ne]
    rintro rfl
    exact hb.notMem.1 hc
  obtain ⟨t, rfl, -, -⟩ := hw.exists_eq_cons h.named
  rw [Occurrence.inside, hcloser, List.append_assoc before, List.takeWhile_append_of_pos hbefore]
  simp

/-- A closer reads up to where its block ends. -/
theorem close?_closer {o : Occurrence} {rest : Text} (h : reading.Stands o rest) :
    close? o.name (o.closer ++ rest) = some rest :=
  Body.stop_of_find Body.shortest_eq_some h.found

/-! ### Texts that are one block -/

/-- A text that is an opener, an inside and the rest of a closer. -/
structure Shaped (s name inside : Text) : Prop where
  named : isName name = true
  split : ∃ markers word after, Opening markers ∧ Word name word ∧ Closing after ∧
    s = markers ++ '@' :: (name ++ ':' :: (inside ++ word)) ++ after

theorem shaped_of_stands {o : Occurrence} {rest : Text} (h : reading.Stands o rest) :
    Shaped o.text o.name o.inside := by
  obtain ⟨markers, hm, hopener⟩ := h.opener
  have hopener : o.opener = markers ++ '@' :: (o.name ++ [':']) := hopener
  obtain ⟨before, word, after, -, hw, ha, hcloser, hinside⟩ := exists_closer h
  refine ⟨h.named, markers, word, after, hm, hw, ha, ?_⟩
  rw [hinside, Occurrence.text, hopener, hcloser]
  simp

theorem inside_ne_nil {o : Occurrence} {rest : Text} (h : reading.Stands o rest) : o.inside ≠ [] := by
  intro hnil
  exact h.body_ne_nil (List.append_eq_nil_iff.mp (List.append_eq_nil_iff.mp hnil).1).2

theorem Shaped.trim {s name inside : Text} (h : Shaped s name inside) :
    Shaped (Text.trim s) name inside := by
  obtain ⟨hname, markers, word, after, hm, hw, ha, rfl⟩ := h
  have hfirm : Text.Firm ('@' :: (name ++ ':' :: (inside ++ word))) := by
    have := (hw.firm hname).cons_append (c := '@') (by decide) (name ++ ':' :: inside)
    simpa using this
  refine ⟨hname, markers, word, Text.trimEnd after, hm, hw, ha.trimEnd, ?_⟩
  rw [Text.trim_around hfirm, hm.trimStart_eq]

theorem Shaped.withoutTabs {s name inside : Text} (h : Shaped s name inside) :
    Shaped (Text.withoutTabs s) name (Text.withoutTabs inside) := by
  obtain ⟨hname, markers, word, after, hm, hw, ha, rfl⟩ := h
  refine ⟨hname, _, word, _, hm.withoutTabs, hw, ha.withoutTabs, ?_⟩
  have hn : Text.withoutTabs name = name :=
    Text.withoutTabs_eq_self (notMem_of_isName hname (by decide))
  have hword : Text.withoutTabs word = word :=
    Text.withoutTabs_eq_self (hw.notMem hname (by decide) (by decide))
  rw [Text.withoutTabs_append, Text.withoutTabs_append, Text.withoutTabs_cons (by decide),
    Text.withoutTabs_append, Text.withoutTabs_cons (by decide), Text.withoutTabs_append, hn, hword]

/-- The strict grammar reads the opener and looks for the closer. -/
theorem match?_eq {markers name rest : Text} (hm : Opening markers) (hname : isName name = true) :
    match? (markers ++ '@' :: (name ++ ':' :: rest)) =
      (Body.find Body.shortest (fun t => if closes name t then some () else none) rest).map
        fun parts => (name, parts.body) := by
  rw [match?, open?_eq_some_iff.mpr ⟨hname, markers, hm, rfl⟩]
  simp only [Option.bind_eq_bind, Option.bind_some]
  cases Body.find Body.shortest (fun t => if closes name t then some () else none) rest <;> rfl

theorem match?_isSome_iff {markers name rest : Text} (hm : Opening markers)
    (hname : isName name = true) :
    (match? (markers ++ '@' :: (name ++ ':' :: rest))).isSome = true ↔
      ∃ b r, rest = b ++ r ∧ b ≠ [] ∧ Closer name r := by
  rw [match?_eq hm hname, Option.isSome_map,
    Body.find_shortest_isSome_iff fun t => by rw [closes_trimStart]]
  simp only [← closes_iff]
  constructor <;> rintro ⟨b, r, hs, hb, hr⟩ <;> refine ⟨b, r, hs, hb, ?_⟩
  · by_contra hne
    simp [hne] at hr
  · simp [hr]

theorem Shaped.match?_eq_some {s name inside : Text} (h : Shaped s name inside) (hne : inside ≠ []) :
    ∃ body, match? s = some (name, body) := by
  obtain ⟨hname, markers, word, after, hm, hw, ha, hs⟩ := h
  have hs : s = markers ++ '@' :: (name ++ ':' :: (inside ++ (word ++ after))) := by simp [hs]
  have hcloser : Closer name (word ++ after) :=
    ⟨[], word, after, .nil, hw, ha, rfl⟩
  have hsome : (match? s).isSome = true := by
    rw [hs, match?_isSome_iff hm hname]
    exact ⟨inside, word ++ after, rfl, hne, hcloser⟩
  rw [hs, match?_eq hm hname] at hsome ⊢
  obtain ⟨parts, hparts⟩ := Option.isSome_iff_exists.mp ((Option.isSome_map).symm.trans hsome)
  exact ⟨parts.body, by rw [hparts]; rfl⟩

theorem open?_of_match? {s name body : Text} (h : match? s = some (name, body)) :
    ∃ rest, open? s = some (name, rest) := by
  simp only [match?, Option.bind_eq_bind, Option.bind_eq_some_iff, Option.some.injEq] at h
  obtain ⟨⟨n, rest⟩, hopen, parts, -, heq⟩ := h
  cases heq
  exact ⟨rest, hopen⟩

/-- What is read as a block has the shape of one. -/
theorem exists_shaped {s name body : Text} (h : match? s = some (name, body)) :
    ∃ inside, inside ≠ [] ∧ Shaped s name inside := by
  obtain ⟨rest, hopen⟩ := open?_of_match? h
  obtain ⟨hname, markers, hm, rfl⟩ := open?_eq_some_iff.mp hopen
  obtain ⟨b, r, rfl, hne, before, word, after, -, hw, ha, rfl⟩ :=
    (match?_isSome_iff hm hname).mp (Option.isSome_of_eq_some h)
  refine ⟨b ++ before, List.append_ne_nil_of_left_ne_nil hne before, hname, markers, word, after, hm, hw, ha, ?_⟩
  simp

/-- Behind the `@` of its closing word a block holds no further mark. -/
theorem Shaped.lastMark_eq {s name inside : Text} (h : Shaped s name inside) :
    Text.lastMark s = some '@' := by
  obtain ⟨hname, markers, word, after, -, hw, ha, rfl⟩ := h
  obtain ⟨t, rfl, -, ht⟩ := hw.exists_eq_cons hname
  have hchars : ∀ {c}, Name.isChar c = false → c ∉ t := by
    intro c hc hmem
    rw [ht c hmem] at hc
    cases hc
  have hs : markers ++ '@' :: (name ++ ':' :: (inside ++ '@' :: t)) ++ after =
      (markers ++ '@' :: (name ++ ':' :: inside)) ++ '@' :: (t ++ after) := by simp
  rw [hs]
  exact Text.lastMark_append_cons (by decide) (List.not_mem_append (hchars (by decide)) ha.notMem.1)
    (List.not_mem_append (hchars (by decide)) ha.notMem.2.1) _

/-- A block has a body: right behind its opener no closer is seen. -/
theorem Shaped.match?_eq_none {s name : Text} (h : Shaped s name []) : match? s = none := by
  obtain ⟨hname, markers, word, after, hm, hw, ha, hs⟩ := h
  have hs : s = markers ++ '@' :: (name ++ ':' :: (word ++ after)) := by simp [hs]
  obtain ⟨t, rfl, -, ht⟩ := hw.exists_eq_cons hname
  rw [← Option.not_isSome_iff_eq_none, hs, match?_isSome_iff hm hname]
  rintro ⟨b, r, hsplit, hb, before, word, after', -, hw', -, rfl⟩
  -- a closer holds an `@`, and there is none behind the first character
  obtain ⟨t', rfl, -, -⟩ := hw'.exists_eq_cons hname
  obtain ⟨c, b, rfl⟩ := List.exists_cons_of_ne_nil hb
  rw [List.cons_append, List.cons_append] at hsplit
  have hrest := (List.cons.inj hsplit).2
  have hat : '@' ∈ t ++ after := by
    rw [hrest]
    simp
  rcases List.mem_append.mp hat with hat | hat
  · exact absurd (ht _ hat) (by decide)
  · exact ha.notMem.1 hat

end Directives.Block
