import Directives.Parameter
import Directives.Proofs.Pieces
import Directives.Proofs.Text
import Mathlib.Data.List.DropRight

/-! Text in order, line by line.

A parameter that is not JSON is put in order in two passes over its characters, the first
of which takes line feeds along with the white space around them. Line by line this is:
white space in front of each line goes, then the lines that are empty, then the spaces and
tabs behind each line; and a last line that was blank leaves its line feed
(`Parameter.normalize_eq_byLines`). What is in order stays as it is
(`Parameter.ofLines_ordered`). -/
namespace Directives

open Text (AllBlank)

/-! ### Without spaces and tabs at the end -/

namespace Text

/-- A space or a tab. -/
def isSpaceOrTab (c : Char) : Bool :=
  c == ' ' || c == '\t'

/-- The line without the spaces and tabs at its end. -/
def trimLine (line : Text) : Text :=
  line.rdropWhile isSpaceOrTab

theorem isBlank_of_isSpaceOrTab {c : Char} (h : isSpaceOrTab c = true) : isBlank c = true := by
  rcases (Bool.or_eq_true_iff).mp h with h | h
  · exact eq_of_beq h ▸ by decide
  · exact eq_of_beq h ▸ by decide

theorem trimLine_cons (c : Char) (line : Text) :
    trimLine (c :: line) = if isSpaceOrTab c && (trimLine line).isEmpty then [] else c :: trimLine line := by
  have hempty : (trimLine line).isEmpty = (line.reverse.dropWhile isSpaceOrTab).isEmpty := by
    simp [trimLine, List.rdropWhile]
  rw [hempty]
  simp only [trimLine, List.rdropWhile, List.reverse_cons, List.dropWhile_append]
  cases line.reverse.dropWhile isSpaceOrTab with
  | nil => cases hc : isSpaceOrTab c <;> simp [hc]
  | cons d s => simp

/-- A line that begins with something else than white space keeps its start. -/
theorem trimLine_of_not_blank {c : Char} (hc : isBlank c = false) (line : Text) :
    trimLine (c :: line) = c :: trimLine line := by
  have hnot : isSpaceOrTab c = false := by
    cases h : isSpaceOrTab c with
    | false => rfl
    | true =>
      rw [isBlank_of_isSpaceOrTab h] at hc
      cases hc
  rw [trimLine_cons, hnot]
  rfl

theorem trimLine_prefix (line : Text) : trimLine line <+: line :=
  List.rdropWhile_prefix isSpaceOrTab line

theorem trimLine_trimLine (line : Text) : trimLine (trimLine line) = trimLine line :=
  List.rdropWhile_idempotent isSpaceOrTab line

end Text

namespace Parameter

/-! ### The two passes over a line -/

theorem dropIndent_of_blank {b : Text} (hb : AllBlank b) (s : Text) :
    dropIndent true (b ++ s) = dropIndent true s := by
  induction b with
  | nil => rfl
  | cons c b ih =>
    rw [List.cons_append, dropIndent, hb c (List.mem_cons_self ..)]
    exact ih fun d hd => hb d (List.mem_cons_of_mem c hd)

/-- Within a line nothing is dropped. -/
theorem dropIndent_append {line : Text} (h : '\n' ∉ line) (s : Text) :
    dropIndent false (line ++ s) = line ++ dropIndent false s := by
  induction line with
  | nil => rfl
  | cons c line ih =>
    rw [List.mem_cons, not_or] at h
    have hc : (c == '\n') = false := beq_false_of_ne (Ne.symm h.1)
    rw [List.cons_append, dropIndent, Bool.false_and, hc, ih h.2]
    rfl

/-- A line that is not blank loses the white space in front of it. -/
theorem dropIndent_of_not_allBlank {line : Text} (hline : '\n' ∉ line) (h : ¬ AllBlank line) (s : Text) :
    dropIndent true (line ++ s) = Text.trimStart line ++ dropIndent false s := by
  obtain ⟨c, t, hct⟩ := List.exists_cons_of_ne_nil fun hnil => h (Text.trimStart_eq_nil_iff.mp hnil)
  have hsplit := Text.leadingBlank_append_trimStart line
  have hnot : '\n' ∉ Text.trimStart line := fun hmem => hline (hsplit ▸ List.mem_append_right _ hmem)
  have hc : isBlank c = false := Text.not_blank_of_trimStart_eq_cons hct
  rw [hct, List.mem_cons, not_or] at hnot
  have hfeed : (c == '\n') = false := beq_false_of_ne (Ne.symm hnot.1)
  rw [← hsplit, List.append_assoc, dropIndent_of_blank (Text.leadingBlank_allBlank line), hsplit, hct,
    List.cons_append, dropIndent, hc, Bool.and_false, hfeed, dropIndent_append hnot.2]
  rfl

theorem dropTrailing_append {line s : Text} (h : '\n' ∉ line) (hs : endsLine (dropTrailing s) = true) :
    dropTrailing (line ++ s) = Text.trimLine line ++ dropTrailing s := by
  induction line with
  | nil => rfl
  | cons c line ih =>
    rw [List.mem_cons, not_or] at h
    have hends : endsLine (Text.trimLine line ++ dropTrailing s) = (Text.trimLine line).isEmpty := by
      cases htrim : Text.trimLine line with
      | nil => exact hs
      | cons d t =>
        have hd : d ∈ line := (Text.trimLine_prefix line).subset (htrim ▸ List.mem_cons_self ..)
        have hne : d ≠ '\n' := fun heq => h.2 (heq ▸ hd)
        simp [endsLine, hne]
    rw [List.cons_append, dropTrailing, ih h.2, Text.trimLine_cons]
    show (if (Text.isSpaceOrTab c && endsLine _) = true then _ else _) = _
    rw [hends]
    cases hdrop : Text.isSpaceOrTab c && (Text.trimLine line).isEmpty with
    | true =>
      have hnil := List.isEmpty_iff.mp (Bool.and_eq_true_iff.mp hdrop).2
      rw [hnil]
      rfl
    | false => rfl

/-! ### Line by line -/

/-- The lines that are not blank, without the white space in front. -/
def remaining (lines : List Text) : List Text :=
  (lines.map Text.trimStart).filter (!·.isEmpty)

/-- The line feed that is left where the last line was blank. -/
def ending (lines : List Text) : Text :=
  if !(remaining lines).isEmpty && (lines.getLastD []).all isBlank then ['\n'] else []

/-- Lines put in order. -/
def ofLines (lines : List Text) : Text :=
  Text.joined ['\n'] ((remaining lines).map Text.trimLine) ++ ending lines

/-- A text put in order line by line. -/
def byLines (content : Text) : Text :=
  ofLines (Text.splitOn '\n' content)

theorem remaining_cons_of_blank {line : Text} (h : AllBlank line) (lines : List Text) :
    remaining (line :: lines) = remaining lines := by
  simp [remaining, Text.trimStart_eq_nil_iff.mpr h]

theorem remaining_cons {line : Text} (h : ¬ AllBlank line) (lines : List Text) :
    remaining (line :: lines) = Text.trimStart line :: remaining lines := by
  have hne : Text.trimStart line ≠ [] := fun hnil => h (Text.trimStart_eq_nil_iff.mp hnil)
  simp [remaining, hne]

theorem all_isBlank_iff {s : Text} : s.all isBlank = true ↔ AllBlank s :=
  List.all_eq_true

/-- Of blank lines nothing remains. -/
theorem remaining_eq_nil_iff {lines : List Text} : remaining lines = [] ↔ ∀ line ∈ lines, AllBlank line := by
  simp [remaining, List.filter_eq_nil_iff, Text.trimStart_eq_nil_iff]

theorem getLastD_cons {line : Text} {lines : List Text} (h : lines ≠ []) :
    (line :: lines).getLastD [] = lines.getLastD [] := by
  obtain ⟨next, rest, rfl⟩ := List.exists_cons_of_ne_nil h
  rfl

/-- A blank line in front of others changes nothing. -/
theorem ofLines_cons_of_blank {line : Text} (h : AllBlank line) {lines : List Text} (hne : lines ≠ []) :
    ofLines (line :: lines) = ofLines lines := by
  simp only [ofLines, ending, remaining_cons_of_blank h, getLastD_cons hne]

/-- Another line in front of others stands in front of what they come to. -/
theorem ofLines_cons {line : Text} (h : ¬ AllBlank line) {lines : List Text} (hne : lines ≠ []) :
    ofLines (line :: lines) = Text.trimLine (Text.trimStart line) ++ '\n' :: ofLines lines := by
  simp only [ofLines, ending, remaining_cons h, getLastD_cons hne, List.map_cons]
  cases hrest : remaining lines with
  | nil =>
    -- all other lines are blank, so that the line feed behind this one is the one that is left
    have hlast : AllBlank (lines.getLastD []) := by
      rw [List.getLastD_eq_getLast?, List.getLast?_eq_some_getLast hne]
      exact remaining_eq_nil_iff.mp hrest _ (List.getLast_mem hne)
    rw [all_isBlank_iff.mpr hlast]
    rfl
  | cons next rest => simp [Text.joined]

theorem ofLines_of_blank {line : Text} (h : AllBlank line) : ofLines [line] = [] := by
  rw [ofLines, ending, remaining_cons_of_blank h]
  rfl

theorem ofLines_singleton {line : Text} (h : ¬ AllBlank line) :
    ofLines [line] = Text.trimLine (Text.trimStart line) := by
  have hall : ([line].getLastD []).all isBlank = false :=
    Bool.eq_false_iff.mpr fun hall => h (all_isBlank_iff.mp hall)
  rw [ofLines, ending, remaining_cons h, hall, Bool.and_false, if_neg Bool.false_ne_true, List.append_nil]
  rfl

/-- The two passes put the lines in order, one line after the other. -/
theorem normalize_joined {lines : List Text} (hne : lines ≠ []) (h : ∀ line ∈ lines, '\n' ∉ line) :
    normalize (Text.joined ['\n'] lines) = ofLines lines := by
  induction lines with
  | nil => exact absurd rfl hne
  | cons line lines ih =>
    rw [List.forall_mem_cons] at h
    have hfeed : '\n' ∉ Text.trimStart line := fun hmem => h.1 ((List.dropWhile_suffix _).subset hmem)
    by_cases hlast : lines = []
    · -- the last line has no line feed behind it
      subst hlast
      show dropTrailing (dropIndent true line) = ofLines [line]
      by_cases hblank : AllBlank line
      · have hdrop := dropIndent_of_blank hblank []
        rw [List.append_nil] at hdrop
        rw [hdrop, ofLines_of_blank hblank]
        rfl
      · have hdrop := dropIndent_of_not_allBlank h.1 hblank []
        rw [List.append_nil] at hdrop
        rw [hdrop, ofLines_singleton hblank]
        exact (dropTrailing_append hfeed rfl).trans (List.append_nil _)
    · rw [Text.joined_cons _ _ hlast, List.append_assoc, List.singleton_append]
      by_cases hblank : AllBlank line
      · rw [ofLines_cons_of_blank hblank hlast, ← ih hlast h.2]
        unfold normalize
        rw [dropIndent_of_blank hblank]
        rfl
      · rw [ofLines_cons hblank hlast, ← ih hlast h.2]
        unfold normalize
        rw [dropIndent_of_not_allBlank h.1 hblank]
        exact dropTrailing_append hfeed rfl

/-- **Normalization goes line by line.** -/
theorem normalize_eq_byLines (content : Text) : normalize content = byLines content := by
  have hjoined := normalize_joined (Text.splitOn_ne_nil '\n' content) fun _ => Text.notMem_of_mem_splitOn
  rwa [Text.joined_splitOn] at hjoined

/-! ### Text in order -/

theorem filter_dropIndent (atStart : Bool) (s : Text) :
    (dropIndent atStart s).filter (!isBlank ·) = s.filter (!isBlank ·) := by
  induction s generalizing atStart with
  | nil => rfl
  | cons c s ih =>
    rw [dropIndent]
    split
    next h => rw [ih, List.filter_cons_of_neg (by simp [(Bool.and_eq_true_iff.mp h).2])]
    next => rw [List.filter_cons, List.filter_cons, ih]

theorem filter_dropTrailing (s : Text) :
    (dropTrailing s).filter (!isBlank ·) = s.filter (!isBlank ·) := by
  induction s with
  | nil => rfl
  | cons c s ih =>
    show (if (Text.isSpaceOrTab c && endsLine (dropTrailing s)) = true then dropTrailing s
      else c :: dropTrailing s).filter _ = _
    split
    next h =>
      have hc := Text.isBlank_of_isSpaceOrTab (Bool.and_eq_true_iff.mp h).1
      rw [ih, List.filter_cons_of_neg (by simp [hc])]
    next => rw [List.filter_cons, List.filter_cons, ih]

/-- The lines of a text in order. The line feed at its end leaves an empty line. -/
def ordered (lines : List Text) : List Text :=
  (remaining lines).map Text.trimLine ++ if ending lines = [] then [] else [[]]

theorem ending_eq {lines : List Text} (h : ending lines ≠ []) :
    ending lines = ['\n'] ∧ remaining lines ≠ [] := by
  rw [ending] at h ⊢
  split at h
  next hlast =>
    rw [if_pos hlast]
    exact ⟨rfl, by simpa using (Bool.and_eq_true_iff.mp hlast).1⟩
  next => exact absurd rfl h

theorem joined_ordered (lines : List Text) : Text.joined ['\n'] (ordered lines) = ofLines lines := by
  rw [ordered, ofLines]
  split
  next h => rw [h, List.append_nil, List.append_nil]
  next h =>
    have hne : (remaining lines).map Text.trimLine ≠ [] :=
      fun hnil => (ending_eq h).2 (List.map_eq_nil_iff.mp hnil)
    rw [Text.joined_append_nil _ hne, (ending_eq h).1]

/-- What remains of a line begins with something else than white space. -/
theorem exists_of_mem_remaining {line : Text} {lines : List Text} (h : line ∈ remaining lines) :
    (∃ c s, line = c :: s ∧ isBlank c = false) ∧ ∃ whole ∈ lines, line = Text.trimStart whole := by
  obtain ⟨hmem, hne⟩ := List.mem_filter.mp h
  obtain ⟨whole, hwhole, rfl⟩ := List.mem_map.mp hmem
  obtain ⟨c, s, hcons⟩ := List.exists_cons_of_ne_nil (by simpa using hne)
  exact ⟨⟨c, s, hcons, Text.not_blank_of_trimStart_eq_cons hcons⟩, whole, hwhole, rfl⟩

theorem remaining_append (lines more : List Text) :
    remaining (lines ++ more) = remaining lines ++ remaining more := by
  simp [remaining]

/-- Lines that begin with something else than white space all remain. -/
theorem remaining_eq_self {lines : List Text} (h : ∀ line ∈ lines, ∃ c s, line = c :: s ∧ isBlank c = false) :
    remaining lines = lines := by
  induction lines with
  | nil => rfl
  | cons line lines ih =>
    rw [List.forall_mem_cons] at h
    obtain ⟨⟨c, s, rfl, hc⟩, hlines⟩ := h
    have hnot : ¬ AllBlank (c :: s) :=
      fun hall => Bool.noConfusion (hc.symm.trans (hall c (List.mem_cons_self ..)))
    rw [remaining_cons hnot, Text.trimStart_cons hc, ih hlines]

theorem exists_of_mem_map_trimLine {lines : List Text} :
    ∀ line ∈ (remaining lines).map Text.trimLine, ∃ c s, line = c :: s ∧ isBlank c = false := by
  intro line hline
  obtain ⟨kept, hkept, rfl⟩ := List.mem_map.mp hline
  obtain ⟨c, s, rfl, hc⟩ := (exists_of_mem_remaining hkept).1
  exact ⟨c, _, Text.trimLine_of_not_blank hc s, hc⟩

theorem remaining_ordered (lines : List Text) :
    remaining (ordered lines) = (remaining lines).map Text.trimLine := by
  have hlast : remaining (if ending lines = [] then [] else [[]]) = [] := by
    split <;> rfl
  rw [ordered, remaining_append, remaining_eq_self exists_of_mem_map_trimLine, hlast, List.append_nil]

theorem ending_ordered (lines : List Text) : ending (ordered lines) = ending lines := by
  rw [ending, remaining_ordered]
  by_cases h : ending lines = []
  · -- the last line begins with something else than white space, so that it is not blank
    rw [h, ordered, if_pos h, List.append_nil]
    refine if_neg fun hboth => ?_
    obtain ⟨hne, hall⟩ := Bool.and_eq_true_iff.mp hboth
    have hne' : (remaining lines).map Text.trimLine ≠ [] := by simpa using hne
    rw [List.getLastD_eq_getLast?, List.getLast?_eq_some_getLast hne'] at hall
    obtain ⟨c, s, hcons, hc⟩ := exists_of_mem_map_trimLine _ (List.getLast_mem hne')
    rw [hcons] at hall
    exact Bool.noConfusion (hc.symm.trans (all_isBlank_iff.mp hall c (List.mem_cons_self ..)))
  · have hne : (remaining lines).isEmpty = false := by simpa using (ending_eq h).2
    rw [(ending_eq h).1, ordered, if_neg h, List.isEmpty_map, hne, List.getLastD_concat]
    rfl

/-- Lines in order come to the same text when they are put in order again. -/
theorem ofLines_ordered (lines : List Text) : ofLines (ordered lines) = ofLines lines := by
  have htwice : Text.trimLine ∘ Text.trimLine = Text.trimLine := funext Text.trimLine_trimLine
  rw [ofLines, ending_ordered, remaining_ordered, List.map_map, htwice, ofLines]

/-- A line in order begins with no white space and ends with no space or tab. -/
def InOrder (line : Text) : Prop :=
  (∀ c ∈ line.head?, isBlank c = false) ∧ ∀ c ∈ line.getLast?, c ≠ ' ' ∧ c ≠ '\t'

theorem inOrder_nil : InOrder [] :=
  ⟨fun _ h => (Option.not_mem_none _ h).elim, fun _ h => (Option.not_mem_none _ h).elim⟩

theorem inOrder_of_mem_ordered {line : Text} {lines : List Text} (h : line ∈ ordered lines) : InOrder line := by
  rcases List.mem_append.mp h with h | h
  · obtain ⟨c, s, hcons, hc⟩ := exists_of_mem_map_trimLine _ h
    obtain ⟨kept, -, rfl⟩ := List.mem_map.mp h
    refine ⟨fun d hd => ?_, fun d hd => ?_⟩
    · rw [hcons, List.head?_cons, Option.mem_some_iff] at hd
      exact hd ▸ hc
    · obtain ⟨hne, rfl⟩ := List.mem_getLast?_eq_getLast hd
      have hnot : ¬ Text.isSpaceOrTab ((Text.trimLine kept).getLast hne) = true :=
        List.rdropWhile_last_not Text.isSpaceOrTab kept hne
      simpa [Text.isSpaceOrTab] using hnot
  · split at h
    next => exact (List.not_mem_nil h).elim
    next => exact List.mem_singleton.mp h ▸ inOrder_nil

theorem notMem_of_mem_ordered {lines : List Text} (h : ∀ line ∈ lines, '\n' ∉ line) :
    ∀ line ∈ ordered lines, '\n' ∉ line := by
  intro line hline
  rcases List.mem_append.mp hline with hline | hline
  · obtain ⟨kept, hkept, rfl⟩ := List.mem_map.mp hline
    obtain ⟨whole, hwhole, rfl⟩ := (exists_of_mem_remaining hkept).2
    exact fun hmem => h whole hwhole ((List.dropWhile_suffix _).subset ((Text.trimLine_prefix _).subset hmem))
  · split at hline
    next => exact (List.not_mem_nil hline).elim
    next => exact List.mem_singleton.mp hline ▸ List.not_mem_nil

theorem lines_byLines (content : Text) : ∀ line ∈ Text.splitOn '\n' (byLines content), InOrder line := by
  rw [byLines, ← joined_ordered]
  by_cases hne : ordered (Text.splitOn '\n' content) = []
  · rw [hne]
    exact fun line hline => List.mem_singleton.mp hline ▸ inOrder_nil
  · rw [Text.splitOn_joined hne (notMem_of_mem_ordered fun _ => Text.notMem_of_mem_splitOn)]
    exact fun line => inOrder_of_mem_ordered

theorem normalize_byLines (content : Text) : normalize (byLines content) = byLines content := by
  rw [byLines, ← joined_ordered]
  by_cases hne : ordered (Text.splitOn '\n' content) = []
  · rw [hne]
    rfl
  · rw [normalize_joined hne (notMem_of_mem_ordered fun _ => Text.notMem_of_mem_splitOn), ofLines_ordered,
      joined_ordered]

/-- **Text that is not JSON is put in order line by line**: no line of it begins with white
space or ends with a space or a tab, all else is as it was, and in order it stays. -/
theorem decode_eq_byLines {content : Text} (h : Value.ofJson? content = none) :
    decode content = .text (byLines content) ∧
      (∀ line ∈ Text.splitOn '\n' (byLines content), InOrder line) ∧
      (byLines content).filter (!isBlank ·) = content.filter (!isBlank ·) ∧
      normalize (byLines content) = byLines content := by
  refine ⟨?_, lines_byLines content, ?_, normalize_byLines content⟩
  · rw [decode, h, normalize_eq_byLines]
    rfl
  · rw [← normalize_eq_byLines, normalize, filter_dropTrailing, filter_dropIndent]

/-- Two lines between blank ones, the first of them indented with an ideographic space. -/
theorem decode_eq_byLines_wide :
    let content := "\n\u3000\tSummer \t\n \r\n\n sale\t\r\n \t".toList
    Value.ofJson? content = none ∧ decode content = .text "Summer\nsale\t\r\n".toList := by
  intro content
  have hnone : Value.ofJson? content = none := by decide +kernel
  have hlines : byLines content = "Summer\nsale\t\r\n".toList := by decide +kernel
  exact ⟨hnone, (decode_eq_byLines hnone).1.trans (congrArg Value.text hlines)⟩

end Parameter
end Directives
