import Directives.Proofs.Grammar.Block
import Directives.Proofs.Grammar.Line

/-! What a scan finds.

A scan goes through a text step by step: past a character where nothing stands, past
an occurrence where one does. `Reaches` is the relation of these steps, and an
occurrence is found exactly where one stands at a place that is reached
(`mem_occurrences_iff`). Nothing is lost on the way (`text_ofText`), so that the
position given with an occurrence is where it stands (`mem_located`). -/
namespace Directives.Scan

/-- What was found, without the gaps. -/
def occurrences (scan : Scan) : List Occurrence :=
  scan.found.map Prod.snd

/-- The scan of `s` tries an occurrence at `t`, the rest of `s` from some place on. -/
inductive Reaches (at? : Text → Option Occurrence) : Text → Text → Prop where
  | here (s : Text) : Reaches at? s s
  | char {c : Char} {s t : Text} : at? (c :: s) = none → Reaches at? s t → Reaches at? (c :: s) t
  | occurrence {s rest t : Text} {o : Occurrence} : at? s = some o → s = o.text ++ rest →
      Reaches at? rest t → Reaches at? s t

variable {r : Reading}

/-! ### One step -/

theorem ofText_of_none {c : Char} {s : Text} (h : r.at? (c :: s) = none) :
    ofText r.at? (c :: s) = cons c (ofText r.at? s) := by
  rw [ofText, h]

theorem ofText_of_some {o : Occurrence} {rest : Text} (h : r.Stands o rest) :
    ofText r.at? (o.text ++ rest) =
      ⟨([], o) :: (ofText r.at? rest).found, (ofText r.at? rest).rest⟩ := by
  have hat : r.at? (o.text ++ rest) = some o := r.at?_eq_some_iff.mpr ⟨rest, rfl, h⟩
  obtain ⟨c, t, hct⟩ := List.exists_cons_of_ne_nil h.text_ne_nil
  have hdrop : List.drop (o.text.length - 1) (t ++ rest) = rest := by simp [hct]
  rw [hct, List.cons_append] at hat ⊢
  rw [ofText, hat]
  simp only [hdrop]

theorem occurrences_cons (c : Char) (scan : Scan) : (cons c scan).occurrences = scan.occurrences := by
  obtain ⟨found, rest⟩ := scan
  cases found <;> rfl

theorem text_cons (c : Char) (scan : Scan) : (cons c scan).text = c :: scan.text := by
  obtain ⟨found, rest⟩ := scan
  cases found <;> simp [cons, text]

/-- A scan goes on behind a character where nothing stands and behind an occurrence. -/
theorem scan_induction {motive : Text → Prop} (nil : motive [])
    (char : ∀ c s, r.at? (c :: s) = none → motive s → motive (c :: s))
    (occurrence : ∀ o rest, r.Stands o rest → motive rest → motive (o.text ++ rest)) (s : Text) :
    motive s := by
  induction hn : s.length using Nat.strong_induction_on generalizing s with
  | _ n ih =>
    subst hn
    cases s with
    | nil => exact nil
    | cons c s =>
      cases hat : r.at? (c :: s) with
      | none => exact char c s hat (ih s.length (by simp) s rfl)
      | some o =>
        obtain ⟨rest, hs, hstands⟩ := r.at?_eq_some_iff.mp hat
        have hpos := List.length_pos_iff.mpr hstands.text_ne_nil
        rw [hs] at ih ⊢
        refine occurrence o rest hstands (ih rest.length ?_ rest rfl)
        rw [List.length_append]
        omega

/-! ### The whole scan -/

/-- Nothing of a text is lost in a scan. -/
theorem text_ofText (s : Text) : (ofText r.at? s).text = s := by
  induction s using scan_induction (r := r) with
  | nil => rw [ofText]; rfl
  | char c s hat ih => rw [ofText_of_none hat, text_cons, ih]
  | occurrence o rest hstands ih =>
    rw [ofText_of_some hstands]
    simpa [text] using ih

/-- What is found stands at a place that is reached. -/
theorem mem_occurrences_iff {s : Text} {o : Occurrence} :
    o ∈ (ofText r.at? s).occurrences ↔ ∃ t, Reaches r.at? s t ∧ r.at? t = some o := by
  constructor
  · induction s using scan_induction (r := r) with
    | nil =>
      rw [ofText]
      exact fun h => absurd h List.not_mem_nil
    | char c s hat ih =>
      rw [ofText_of_none hat, occurrences_cons]
      intro h
      obtain ⟨t, hreaches, ht⟩ := ih h
      exact ⟨t, .char hat hreaches, ht⟩
    | occurrence o' rest hstands ih =>
      have hat := r.at?_eq_some_iff.mpr ⟨rest, rfl, hstands⟩
      rw [ofText_of_some hstands]
      intro h
      rcases List.mem_cons.mp h with rfl | h
      · exact ⟨_, .here _, hat⟩
      · obtain ⟨t, hreaches, ht⟩ := ih h
        exact ⟨t, .occurrence hat rfl hreaches, ht⟩
  · rintro ⟨t, hreaches, ht⟩
    induction hreaches with
    | here s =>
      obtain ⟨rest, rfl, hstands⟩ := r.at?_eq_some_iff.mp ht
      rw [ofText_of_some hstands]
      exact List.mem_cons_self ..
    | char hat _ ih =>
      rw [ofText_of_none hat, occurrences_cons]
      exact ih ht
    | occurrence hat hs _ ih =>
      obtain ⟨rest', hs', hstands⟩ := r.at?_eq_some_iff.mp hat
      have hrest := List.append_cancel_left (hs.symm.trans hs')
      rw [hs, hrest, ofText_of_some hstands]
      exact List.mem_cons_of_mem _ (hrest ▸ ih ht)

/-! ### Names and bodies -/

/-- The name and the body of each occurrence. -/
def directives (scan : Scan) : List (Text × Text) :=
  scan.occurrences.map fun o => (o.name, o.body)

theorem directives_of_none {c : Char} {s : Text} (h : r.at? (c :: s) = none) :
    (ofText r.at? (c :: s)).directives = (ofText r.at? s).directives := by
  rw [ofText_of_none h, directives, occurrences_cons]
  rfl

theorem directives_of_found {s name t : Text} {parts : Body.Parts Text}
    (hopen : r.open? s = some (name, t)) (hfind : r.find name t = some parts) :
    (ofText r.at? s).directives = (name, parts.body) :: (ofText r.at? parts.closed).directives := by
  have hat : r.at? s = some (.ofParts s name t parts) := by simp [Reading.at?, hopen, hfind]
  obtain ⟨rest, hs, hstands⟩ := r.at?_eq_some_iff.mp hat
  have hopen' := hstands.open?_eq
  rw [← hs, hopen] at hopen'
  obtain ⟨-, ht⟩ := Prod.mk.inj (Option.some.inj hopen')
  have hfound := hstands.found
  rw [← ht] at hfound
  have hclosed : parts.closed = rest :=
    congrArg Body.Parts.closed (Option.some.inj (hfind.symm.trans hfound))
  have hscan := congrArg directives (ofText_of_some hstands)
  rw [← hs] at hscan
  rw [hclosed]
  exact hscan

/-- What stands in front of the first `@` does not matter. -/
theorem directives_append {front : Text} (h : '@' ∉ front) (t : Text) :
    (ofText r.at? (front ++ '@' :: t)).directives = (ofText r.at? ('@' :: t)).directives := by
  induction front with
  | nil => rfl
  | cons c front ih =>
    have hskip (hnone : ∀ name rest, r.open? (c :: front ++ '@' :: t) = some (name, rest) →
        r.find name rest = none) :
        (ofText r.at? (c :: front ++ '@' :: t)).directives = (ofText r.at? ('@' :: t)).directives :=
      (directives_of_none (r.at?_eq_none hnone)).trans (ih fun hm => h (List.mem_cons_of_mem c hm))
    rcases r.open?_append h t with hopen | hopen
    · exact hskip fun name rest h => nomatch hopen.symm.trans h
    · cases hat : r.open? ('@' :: t) with
      | none => exact hskip fun name rest h => nomatch (hopen.trans hat).symm.trans h
      | some found =>
        rw [hat] at hopen
        cases hfind : r.find found.1 found.2 with
        | none =>
          refine hskip fun name rest h => ?_
          cases hopen.symm.trans h
          exact hfind
        | some parts => rw [directives_of_found hopen hfind, directives_of_found hat hfind]

theorem directives_of_notMem {s : Text} (h : '@' ∉ s) : (ofText r.at? s).directives = [] := by
  induction s with
  | nil => rw [ofText]; rfl
  | cons c s ih =>
    refine (directives_of_none ?_).trans (ih fun hm => h (List.mem_cons_of_mem c hm))
    rw [r.at?_eq_none_iff]
    intro o rest hs hstands
    obtain ⟨markers, -, hopener⟩ := hstands.opener
    exact h (by simp [hs, Occurrence.text, hopener])

/-- Texts that are the same from their first `@` on have the same directives. -/
theorem directives_congr {s t : Text} (h : Text.fromAt s = Text.fromAt t) :
    (ofText r.at? s).directives = (ofText r.at? t).directives := by
  have hfrom : ∀ s, (ofText r.at? s).directives = (ofText r.at? (Text.fromAt s)).directives := by
    intro s
    obtain ⟨front, hfront, hs⟩ := Text.exists_front s
    cases hat : Text.fromAt s with
    | nil =>
      rw [hat, List.append_nil] at hs
      rw [hs, directives_of_notMem hfront, directives_of_notMem List.not_mem_nil]
    | cons c t =>
      have hc : c = '@' := by
        have hhead := List.head_dropWhile_not (· != '@') (l := s) (by
          rw [show s.dropWhile (· != '@') = c :: t from hat]
          exact List.cons_ne_nil c t)
        simpa [show s.dropWhile (· != '@') = c :: t from hat] using hhead
      rw [hat, hc] at hs
      rw [hs, hc, directives_append hfront]
  rw [hfrom s, h, ← hfrom t]

/-! ### Positions -/

theorem map_located (scan : Scan) : scan.located.map Prod.snd = scan.occurrences := by
  have hgo : ∀ found position, (located.go position found).map Prod.snd = found.map Prod.snd := by
    intro found
    induction found with
    | nil => intro position; rfl
    | cons pair found ih =>
      intro position
      rw [located.go, List.map_cons, ih]
      rfl
  exact hgo scan.found 0

theorem mem_directives {scan : Scan} {found : Nat × Occurrence} (h : found ∈ scan.located) :
    (found.2.name, found.2.body) ∈ scan.directives := by
  rw [directives, ← map_located, List.map_map]
  exact List.mem_map_of_mem h

theorem go_cons (c : Char) (scan : Scan) (position : Nat) :
    located.go position (cons c scan).found = located.go (position + c.utf8Size) scan.found := by
  obtain ⟨found, rest⟩ := scan
  cases found with
  | nil => rfl
  | cons pair found => simp only [cons, located.go, Text.byteSize_cons, Nat.add_assoc]

theorem go_of_none {c : Char} {s : Text} (h : r.at? (c :: s) = none) (position : Nat) :
    located.go position (ofText r.at? (c :: s)).found =
      located.go (position + c.utf8Size) (ofText r.at? s).found := by
  rw [ofText_of_none h, go_cons]

theorem go_of_some {o : Occurrence} {rest : Text} (h : r.Stands o rest) (position : Nat) :
    located.go position (ofText r.at? (o.text ++ rest)).found =
      (position, o) :: located.go (position + Text.byteSize o.text) (ofText r.at? rest).found := by
  rw [ofText_of_some h]
  rfl

theorem Reaches.exists_append {at? : Text → Option Occurrence} {s t : Text} (h : Reaches at? s t) :
    ∃ front, s = front ++ t := by
  induction h with
  | here s => exact ⟨[], rfl⟩
  | @char c _ _ _ _ ih =>
    obtain ⟨front, rfl⟩ := ih
    exact ⟨c :: front, rfl⟩
  | @occurrence _ _ _ o _ hs _ ih =>
    obtain ⟨front, rfl⟩ := ih
    exact ⟨o.text ++ front, by rw [hs, List.append_assoc]⟩

/-- Past an occurrence nothing is reached but what its rest reaches. -/
theorem Reaches.eq_or_rest {at? : Text → Option Occurrence} {s rest t : Text} {o : Occurrence}
    (h : Reaches at? s t) (hat : at? s = some o) (hs : s = o.text ++ rest) :
    t = s ∨ Reaches at? rest t := by
  cases h with
  | here => exact .inl rfl
  | char hnone _ =>
    rw [hat] at hnone
    cases hnone
  | occurrence hsome hs' hrest =>
    rw [hat] at hsome
    cases hsome
    rw [List.append_cancel_left (hs.symm.trans hs')]
    exact .inr hrest

/-- What is located is what stands at a place that is reached, and it stands there. -/
theorem mem_go_iff {s : Text} {position : Nat} {found : Nat × Occurrence} :
    found ∈ located.go position (ofText r.at? s).found ↔
      ∃ before rest, s = before ++ (found.2.text ++ rest) ∧
        found.1 = position + Text.byteSize before ∧ r.Stands found.2 rest ∧
        Reaches r.at? s (found.2.text ++ rest) := by
  induction s using scan_induction (r := r) generalizing position with
  | nil =>
    rw [ofText]
    refine ⟨fun h => absurd h List.not_mem_nil, ?_⟩
    rintro ⟨before, rest, hs, -, hstands, -⟩
    have hnil := (List.append_eq_nil_iff.mp hs.symm).2
    exact absurd (List.append_eq_nil_iff.mp hnil).1 hstands.text_ne_nil
  | char c s hat ih =>
    rw [go_of_none hat, ih]
    constructor
    · rintro ⟨before, rest, rfl, hstart, hstands, hreaches⟩
      refine ⟨c :: before, rest, rfl, ?_, hstands, .char hat hreaches⟩
      rw [hstart, Text.byteSize_cons, Nat.add_assoc]
    · rintro ⟨before, rest, hs, hstart, hstands, hreaches⟩
      have hsome := r.at?_eq_some_iff.mpr ⟨rest, rfl, hstands⟩
      cases before with
      | nil =>
        rw [List.nil_append] at hs
        rw [← hs, hat] at hsome
        cases hsome
      | cons d before =>
        obtain ⟨rfl, htail⟩ := List.cons.inj hs
        refine ⟨before, rest, htail, ?_, hstands, ?_⟩
        · rw [hstart, Text.byteSize_cons, Nat.add_assoc]
        · generalize ht : found.2.text ++ rest = t at hreaches hsome
          cases hreaches with
          | here => rw [hat] at hsome; cases hsome
          | char _ h => exact h
          | occurrence hsome' => rw [hat] at hsome'; cases hsome'
  | occurrence o rest' hstands' ih =>
    have hat := r.at?_eq_some_iff.mpr ⟨rest', rfl, hstands'⟩
    rw [go_of_some hstands', List.mem_cons, ih]
    constructor
    · rintro (rfl | ⟨before, rest, hs, hstart, hstands, hreaches⟩)
      · exact ⟨[], rest', rfl, rfl, hstands', .here _⟩
      · refine ⟨o.text ++ before, rest, by rw [hs, List.append_assoc], ?_, hstands,
          .occurrence hat rfl hreaches⟩
        simp only [hstart, Text.byteSize_append, Nat.add_assoc]
    · rintro ⟨before, rest, hs, hstart, hstands, hreaches⟩
      have hsome := r.at?_eq_some_iff.mpr ⟨rest, rfl, hstands⟩
      rcases hreaches.eq_or_rest hat rfl with hhere | hrest
      · rw [hhere, hat] at hsome
        have hbefore : before = [] := by simpa [hhere] using hs
        rw [hbefore, Text.byteSize_nil, Nat.add_zero] at hstart
        exact .inl (Prod.ext hstart (Option.some.inj hsome).symm)
      · obtain ⟨b, hb⟩ := hrest.exists_append
        rw [hb, ← List.append_assoc] at hs
        have hbefore := List.append_cancel_right hs
        refine .inr ⟨b, rest, hb, ?_, hstands, hrest⟩
        simp only [hstart, ← hbefore, Text.byteSize_append, Nat.add_assoc]

/-- An occurrence is located where it stands, at a place that is reached. -/
theorem mem_located_iff {s : Text} {found : Nat × Occurrence} :
    found ∈ (ofText r.at? s).located ↔
      ∃ before rest, s = before ++ (found.2.text ++ rest) ∧ found.1 = Text.byteSize before ∧
        r.Stands found.2 rest ∧ Reaches r.at? s (found.2.text ++ rest) := by
  show found ∈ located.go 0 (ofText r.at? s).found ↔ _
  rw [mem_go_iff]
  simp only [Nat.zero_add]

/-- An occurrence stands where it is located. -/
theorem mem_located {s : Text} {start : Nat} {o : Occurrence}
    (h : (start, o) ∈ (ofText r.at? s).located) :
    ∃ before after, s = before ++ o.text ++ after ∧ start = Text.byteSize before := by
  obtain ⟨before, rest, hs, hstart, -, -⟩ := mem_located_iff.mp h
  exact ⟨before, rest, by rw [hs, List.append_assoc], hstart⟩

end Directives.Scan
