import Directives.Proofs.Extent
import Directives.Proofs.Grammar.Tight

/-! What a scan does not miss.

Where a directive can be read, a directive of that form is found, though not always
that one: it may lie inside one that begins further left. So every such place is
*covered* by an occurrence (`Scan.covers_of_at?`), and a gap, taken as a text of its
own, holds no directive (`Scan.gap_at?_eq_none`).

What can be read at a place is said without the reader, by what the text there is
made of: `Block.Begins` and `Line.Begins`. -/
namespace Directives

open Text (AllBlank byteSize)

/-! ### Where a directive begins -/

/-- At the start of the text stands the opener of a block, and one character or more
behind its colon a closing word of its name. -/
structure Block.Begins (s : Text) : Prop where
  split : ∃ markers name inside word rest, Opening markers ∧ isName name = true ∧ inside ≠ [] ∧
    Word name word ∧ s = markers ++ '@' :: (name ++ ':' :: (inside ++ (word ++ rest)))

theorem Block.begins_iff {s : Text} : Begins s ↔ (at? s).isSome = true := by
  constructor
  · rintro ⟨markers, name, inside, word, rest, hm, hname, hne, hw, hs⟩
    have hopen : open? s = some (name, inside ++ (word ++ rest)) :=
      open?_eq_some_iff.mpr ⟨hname, markers, hm, hs⟩
    obtain ⟨c, t, rfl⟩ := List.exists_cons_of_ne_nil hne
    exact (at?_isSome_iff hopen).mpr ⟨word, hw, t, rest, by simp⟩
  · intro h
    obtain ⟨o, rest, rfl, hstands⟩ := reading.isSome_at?_iff.mp h
    obtain ⟨word, after, hw, hbehind⟩ := exists_behind hstands
    obtain ⟨hname, markers, hm, hs⟩ := open?_eq_some_iff.mp hstands.open?_eq
    exact ⟨markers, o.name, o.inside, word, after, hm, hname, inside_ne_nil hstands, hw, hbehind ▸ hs⟩

/-- At the start of the text stands the opener of a line directive, and behind it a body
made of units and a `;`. -/
structure Line.Begins (s : Text) : Prop where
  split : ∃ markers name blank body behind rest, Opening markers ∧ isName name = true ∧
    AllBlank blank ∧ Body.Units body ∧ body ≠ [] ∧ AllBlank behind ∧
    s = markers ++ '@' :: (name ++ ':' :: ':' :: (blank ++ body ++ behind ++ ';' :: rest))

theorem Body.Units.append {s t : Text} (hs : Units s) (ht : Units t) : Units (s ++ t) := by
  induction hs with
  | nil => exact ht
  | escaped c _ ih => exact .escaped c ih
  | plain hc hsemi _ ih => exact .plain hc hsemi ih

theorem Body.units_of_allBlank {s : Text} (h : AllBlank s) : Units s := by
  induction s with
  | nil => exact .nil
  | cons c s ih =>
    have hc : ∀ d, isBlank d = false → c ≠ d := by
      rintro d hd rfl
      exact absurd (h c (List.mem_cons_self ..)) (by simp [hd])
    exact .plain (hc '\\' (by decide)) (hc ';' (by decide))
      (ih fun d hd => h d (List.mem_cons_of_mem c hd))

theorem Line.units_body {o : Occurrence} {rest : Text} (h : reading.Stands o rest) :
    Body.Units o.body := by
  have hfound := h.found
  rw [List.append_assoc] at hfound
  rcases Body.find_cases Body.shortestEscaped_eq_some hfound with ⟨-, hends⟩ | ⟨⟨c, hbody, hc⟩, -⟩
  · exact hends.made
  · rw [hbody]
    exact Body.units_of_allBlank (by simpa [AllBlank] using hc)

/-- Some body is found where units stand in front of a `;`, however the white space among
them is shared out. -/
theorem Line.find_isSome {s : Text} (hs : Body.Units s) (hne : s ≠ []) (rest : Text) :
    (Body.find Body.shortestEscaped close? (s ++ ';' :: rest)).isSome = true := by
  have hsemi : Text.trimStart (';' :: rest) = ';' :: rest := Text.trimStart_cons (by decide) rest
  have hclose : (close? (';' :: rest)).isSome = true := by
    have hend := close?_append Text.allBlank_nil rest
    rw [List.nil_append] at hend
    rw [hend]
    rfl
  have hstart := Text.trimStart_append hsemi s
  by_cases hblank : AllBlank s
  · refine Body.find_isSome_of_blank ?_ ?_
    · rw [Body.leadingBlank_of_firm hblank hsemi]
      exact hne
    · rw [hstart, Text.trimStart_eq_nil_iff.mpr hblank]
      exact hclose
  · have htrim : Text.trimStart s ≠ [] := fun h => hblank (Text.trimStart_eq_nil_iff.mp h)
    have hfound := Body.shortestEscaped_isSome (units_trimStart hs) htrim hclose
    rw [← hstart] at hfound
    obtain ⟨found, hfound⟩ := Option.isSome_iff_exists.mp hfound
    simp [Body.find, hfound]

theorem Line.begins_iff {s : Text} : Begins s ↔ (at? s).isSome = true := by
  constructor
  · rintro ⟨markers, name, blank, body, behind, rest, hm, hname, hblank, hunits, hne, hbehind, hs⟩
    have hopen : open? s = some (name, blank ++ body ++ behind ++ ';' :: rest) :=
      open?_eq_some_iff.mpr ⟨hname, markers, hm, hs⟩
    have hall : Body.Units (blank ++ body ++ behind) :=
      ((Body.units_of_allBlank hblank).append hunits).append (Body.units_of_allBlank hbehind)
    have hfind := find_isSome hall (by simp [hne]) rest
    obtain ⟨parts, hparts⟩ := Option.isSome_iff_exists.mp hfind
    simp only [at?, hopen, hparts, Option.bind_eq_bind, Option.bind_some, Option.isSome_some]
  · intro h
    obtain ⟨o, rest, rfl, hstands⟩ := reading.isSome_at?_iff.mp h
    obtain ⟨-, -, closer, ⟨behind, after, hbehind, -, rfl⟩, hbody⟩ := find_sound hstands.found
    obtain ⟨hname, markers, hm, hs⟩ := open?_eq_some_iff.mp hstands.open?_eq
    refine ⟨markers, o.name, o.blank, o.body, behind, after ++ rest, hm, hname,
      hstands.blank_allBlank, units_body hstands, hstands.body_ne_nil, hbehind, ?_⟩
    rw [hs, hbody]
    simp

/-! ### What a scan covers -/

namespace Scan

variable {r : Reading}

/-- An occurrence takes in the byte `n`. -/
def Covers (scan : Scan) (n : Nat) : Prop :=
  ∃ found ∈ scan.located, found.1 ≤ n ∧ n < found.1 + byteSize found.2.text

/-- What stands between the occurrences, in front of the first and behind the last. -/
def gaps (scan : Scan) : List Text :=
  scan.found.map Prod.fst ++ [scan.rest]

/-- Where a directive can be read, the scan finds one that takes in the place. -/
theorem covers_go {t : Text} (h : (r.at? t).isSome = true) (front : Text) (position : Nat) :
    ∃ found ∈ located.go position (ofText r.at? (front ++ t)).found,
      found.1 ≤ position + byteSize front ∧
        position + byteSize front < found.1 + byteSize found.2.text := by
  generalize hs : front ++ t = s
  induction s using scan_induction (r := r) generalizing front position with
  | nil =>
    obtain ⟨-, rfl⟩ := List.append_eq_nil_iff.mp hs
    rw [Reading.at?_nil] at h
    cases h
  | char c s hat ih =>
    rw [go_of_none hat]
    cases front with
    | nil =>
      rw [List.nil_append] at hs
      rw [hs, hat] at h
      cases h
    | cons d front =>
      obtain ⟨rfl, htail⟩ := List.cons.inj hs
      obtain ⟨found, hmem, hle, hlt⟩ := ih front (position + d.utf8Size) htail
      rw [Nat.add_assoc, ← Text.byteSize_cons] at hle hlt
      exact ⟨found, hmem, hle, hlt⟩
  | occurrence o rest hstands ih =>
    rw [go_of_some hstands]
    have hpast : ∀ e, front = o.text ++ e → e ++ t = rest →
        ∃ found ∈ (position, o) :: located.go (position + byteSize o.text) (ofText r.at? rest).found,
          found.1 ≤ position + byteSize front ∧
            position + byteSize front < found.1 + byteSize found.2.text := by
      intro e hfront he
      obtain ⟨found, hmem, hle, hlt⟩ := ih e (position + byteSize o.text) he
      refine ⟨found, List.mem_cons_of_mem _ hmem, ?_⟩
      rw [hfront, Text.byteSize_append, ← Nat.add_assoc]
      exact ⟨hle, hlt⟩
    rcases List.append_eq_append_iff.mp hs with ⟨e, ho, he⟩ | ⟨e, hfront, he⟩
    · cases e with
      | nil =>
        rw [List.append_nil] at ho
        exact hpast [] (by rw [ho, List.append_nil]) (by simpa using he)
      | cons d e =>
        have hpos := Text.byteSize_pos (List.cons_ne_nil d e)
        refine ⟨(position, o), List.mem_cons_self .., Nat.le_add_right .., ?_⟩
        rw [ho, Text.byteSize_append]
        omega
    · exact hpast e hfront he.symm

theorem covers_of_at? {front t : Text} (h : (r.at? t).isSome = true) :
    (ofText r.at? (front ++ t)).Covers (byteSize front) := by
  obtain ⟨found, hmem, hle, hlt⟩ := covers_go h front 0
  rw [Nat.zero_add] at hle hlt
  exact ⟨found, hmem, hle, hlt⟩

/-- One more character makes the first gap longer. -/
theorem gaps_cons (c : Char) (scan : Scan) :
    ∃ gap gaps, scan.gaps = gap :: gaps ∧ (cons c scan).gaps = (c :: gap) :: gaps ∧ gap <+: scan.text := by
  obtain ⟨found, rest⟩ := scan
  cases found with
  | nil => exact ⟨rest, [], rfl, rfl, List.prefix_rfl⟩
  | cons pair found =>
    refine ⟨pair.1, found.map Prod.fst ++ [rest], rfl, rfl, ?_⟩
    rw [show (⟨pair :: found, rest⟩ : Scan).text = pair.1 ++ pair.2.text ++ text ⟨found, rest⟩ from rfl,
      List.append_assoc]
    exact List.prefix_append ..

/-- In a gap, taken as a text of its own, no directive can be read. -/
theorem gap_at?_eq_none (hmore : ∀ s t, (r.at? s).isSome = true → (r.at? (s ++ t)).isSome = true)
    {s gap front t : Text} (hgap : gap ∈ (ofText r.at? s).gaps) (h : gap = front ++ t) :
    r.at? t = none := by
  have hempty : ∀ front, [] = front ++ t → r.at? t = none := by
    intro front hnil
    rw [(List.append_eq_nil_iff.mp hnil.symm).2, Reading.at?_nil]
  induction s using scan_induction (r := r) generalizing gap front with
  | nil =>
    rw [ofText] at hgap
    rw [List.mem_singleton.mp hgap] at h
    exact hempty front h
  | char c s hat ih =>
    obtain ⟨first, gaps, hgaps, hcons, hfirst⟩ := gaps_cons c (ofText r.at? s)
    rw [ofText_of_none hat, hcons] at hgap
    rw [hgaps] at ih
    rcases List.mem_cons.mp hgap with rfl | hgap
    · cases front with
      | nil =>
        -- what follows the gap does not undo a directive that is read in it
        rw [text_ofText] at hfirst
        obtain ⟨e, rfl⟩ := hfirst
        rw [← Option.not_isSome_iff_eq_none]
        intro hsome
        rw [List.nil_append] at h
        have hwhole := hmore t e hsome
        rw [← h, List.cons_append, hat] at hwhole
        cases hwhole
      | cons d front => exact ih (List.mem_cons_self ..) (List.cons.inj h).2
    · exact ih (List.mem_cons_of_mem _ hgap) h
  | occurrence o rest hstands ih =>
    rw [ofText_of_some hstands] at hgap
    rcases List.mem_cons.mp hgap with rfl | hgap
    · exact hempty front h
    · exact ih hgap h

/-- The scan of `s` finds directives that begin as `begins` says, and misses none: every
place where one begins is taken in by an occurrence, and there is none in a gap. -/
structure Complete (begins : Text → Prop) (s : Text) (scan : Scan) : Prop where
  covered : ∀ front t, s = front ++ t → begins t → scan.Covers (byteSize front)
  begun : ∀ found ∈ scan.located, ∃ front t, s = front ++ t ∧ found.1 = byteSize front ∧ begins t
  gaps : ∀ gap ∈ scan.gaps, ∀ front t, gap = front ++ t → ¬ begins t

theorem complete_ofText {begins : Text → Prop} (hbegins : ∀ s, begins s ↔ (r.at? s).isSome = true)
    (happend : ∀ s t, begins s → begins (s ++ t)) (s : Text) : Complete begins s (ofText r.at? s) := by
  refine ⟨?_, ?_, ?_⟩
  · rintro front t rfl ht
    exact covers_of_at? ((hbegins t).mp ht)
  · intro found hmem
    obtain ⟨before, rest, hs, hstart, hstands, -⟩ := mem_located_iff.mp hmem
    exact ⟨before, found.2.text ++ rest, hs, hstart,
      (hbegins _).mpr (r.isSome_at?_iff.mpr ⟨found.2, rest, rfl, hstands⟩)⟩
  · intro gap hgap front t h ht
    have hsome := (hbegins t).mp ht
    rw [gap_at?_eq_none (fun s t hs => (hbegins _).mp (happend s t ((hbegins s).mpr hs))) hgap h] at hsome
    cases hsome

end Scan

theorem Block.Begins.append {s : Text} (h : Begins s) (t : Text) : Begins (s ++ t) := by
  obtain ⟨markers, name, inside, word, rest, hm, hname, hne, hw, rfl⟩ := h
  exact ⟨markers, name, inside, word, rest ++ t, hm, hname, hne, hw, by simp⟩

theorem Line.Begins.append {s : Text} (h : Begins s) (t : Text) : Begins (s ++ t) := by
  obtain ⟨markers, name, blank, body, behind, rest, hm, hname, hb, hunits, hne, hbehind, rfl⟩ := h
  exact ⟨markers, name, blank, body, behind, rest ++ t, hm, hname, hb, hunits, hne, hbehind, by simp⟩

/-- **Nothing is missed.** The scan for blocks takes in every place where a block begins,
the scan for line directives every place where a line directive begins. -/
theorem Scan.nothing_missed (s : Text) :
    Complete Block.Begins s (blocks s) ∧ Complete Line.Begins s (lines s) :=
  ⟨complete_ofText (r := Block.reading) (fun _ => Block.begins_iff) (fun _ t h => h.append t) s,
    complete_ofText (r := Line.reading) (fun _ => Line.begins_iff) (fun _ t h => h.append t) s⟩

end Directives
