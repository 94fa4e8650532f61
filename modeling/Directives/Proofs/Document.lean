import Directives.Proofs.Grammar.Tight
import Directives.Proofs.Rereading

/-! Documents that are written and read back.

A document is blocks and then line directives, each with the comment markers and the
white space its form allows, and between them text without `@` and `:`. What is read
from its text is what it was written from (`ofText_text`).

Each scan goes through the text item by item. The scan for blocks takes every block as
one occurrence and finds none behind them, where no closing word is left. The scan for
line directives meets an `@` twice in every block, and neither begins an opener: behind
the name of the first stands a single colon, and behind that of the second none at all
(`Unopened`). -/
namespace Directives

open Text (AllBlank)

/-! ### What is written -/

/-- A block as it is written: the body between white space, in front of it an opener
with its markers, behind it a closer with its own. -/
structure BlockItem where
  name : Text
  body : Text
  markers : Text
  blank : Text
  before : Text
  word : Text
  after : Text
  isName_name : isName name = true
  tight : Block.Tight body
  tab_notMem : '\t' ∉ body
  opening : Block.Opening markers
  allBlank : AllBlank blank
  blank_ne_nil : blank ≠ []
  beforeWord : Block.BeforeWord before
  closingWord : Block.Word name word
  closing : Block.Closing after

/-- A line directive as it is written. Its name is none that a closing word begins with. -/
structure LineItem where
  name : Text
  body : Text
  markers : Text
  blank : Text
  behind : Text
  after : Text
  isName_name : isName name = true
  not_end : ¬ ['e', 'n', 'd', '-'] <+: name
  tight : Line.Tight body
  at_notMem : '@' ∉ body
  opening : Line.Opening markers
  allBlank : AllBlank blank
  allBlank_behind : AllBlank behind
  closing : Marker.Floating Marker.htmlClose after

/-- Text between directives. -/
abbrev Gap := { s : Text // '@' ∉ s ∧ ':' ∉ s }

/-- Blocks and then line directives, each with the gap in front of it, and the rest. -/
structure Document where
  blocks : List (Gap × BlockItem)
  lines : List (Gap × LineItem)
  rest : Gap

def BlockItem.text (b : BlockItem) : Text :=
  b.markers ++ '@' :: (b.name ++ ':' :: (b.blank ++ b.body ++ b.before ++ b.word ++ b.after))

def LineItem.text (l : LineItem) : Text :=
  l.markers ++ '@' :: (l.name ++ ':' :: ':' :: (l.blank ++ l.body ++ l.behind ++ ';' :: l.after))

/-- Items with their gaps, in front of `rest`. -/
def written {α : Type} (text : α → Text) (items : List (Gap × α)) (rest : Text) : Text :=
  items.foldr (fun (gap, item) tail => gap.1 ++ (text item ++ tail)) rest

/-- The text of a document. -/
def Document.text (d : Document) : Text :=
  written BlockItem.text d.blocks (written LineItem.text d.lines d.rest.1)

/-- What holds of the rest and is kept by gaps and by items holds of the text. -/
theorem written_induction {α : Type} {text : α → Text} {motive : Text → Prop} {rest : Text}
    (nil : motive rest) (gap : ∀ (gap : Gap) t, motive t → motive (gap.1 ++ t))
    (item : ∀ a t, motive t → motive (text a ++ t)) (items : List (Gap × α)) :
    motive (written text items rest) := by
  induction items with
  | nil => exact nil
  | cons pair items ih => exact gap pair.1 _ (item pair.2 _ ih)

/-- A scan that takes every item as one occurrence finds the items. -/
theorem directives_written {α : Type} {r : Reading} {text : α → Text} {directive : α → Text × Text}
    (step : ∀ a t, (Scan.ofText r.at? (text a ++ t)).directives =
      directive a :: (Scan.ofText r.at? t).directives) (items : List (Gap × α)) (rest : Text) :
    (Scan.ofText r.at? (written text items rest)).directives =
      items.map (fun pair => directive pair.2) ++ (Scan.ofText r.at? rest).directives := by
  induction items with
  | nil => rfl
  | cons pair items ih =>
    have hgap := Scan.directives_congr (r := r)
      (Text.fromAt_append pair.1.2.1 (text pair.2 ++ written text items rest))
    rw [List.map_cons, List.cons_append, ← ih, ← step]
    exact hgap

/-! ### The scan for blocks -/

theorem BlockItem.blocks_append (b : BlockItem) (t : Text) :
    (Scan.blocks (b.text ++ t)).directives = (b.name, b.body) :: (Scan.blocks t).directives := by
  have hopen : Block.open? (b.text ++ t) =
      some (b.name, b.blank ++ (b.body ++ (b.before ++ (b.word ++ (b.after ++ t))))) :=
    Block.open?_eq_some_iff.mpr ⟨b.isName_name, b.markers, b.opening, by simp [text]⟩
  obtain ⟨rest, hfind, hrest⟩ :=
    b.tight.find_eq b.allBlank b.isName_name b.beforeWord b.closingWord (b.after ++ t)
  rw [Text.fromAt_append b.closing.notMem.1] at hrest
  refine (Scan.directives_of_found (r := Block.reading) hopen hfind).trans ?_
  rw [Scan.directives_congr hrest]
  rfl

/-- Where no closing word stands, there is no block. -/
theorem blocks_of_not_word {s : Text} (h : ¬ Block.closingWord <:+: s) :
    (Scan.blocks s).directives = [] := by
  show (Scan.ofText Block.reading.at? s).directives = []
  induction s with
  | nil => rw [Scan.ofText]; rfl
  | cons c s ih =>
    have hnone : Block.reading.at? (c :: s) = none := by
      rw [Block.reading.at?_eq_none_iff]
      intro o rest hs hstands
      obtain ⟨before, word, after, -, hw, -, hcloser, -⟩ := Block.exists_closer hstands
      have hword : Block.closingWord <+: word := by cases hw <;> exact List.prefix_append ..
      refine h (hword.isInfix.trans ⟨o.opener ++ o.blank ++ o.body ++ before, after ++ rest, ?_⟩)
      simp [hs, Occurrence.text, hcloser]
    rw [Scan.directives_of_none hnone]
    exact ih fun hword => h (hword.trans (List.suffix_cons c s).isInfix)

/-- No closing word is written with a line directive. -/
theorem LineItem.word_of_append {l : LineItem} {t : Text} (h : Block.closingWord <:+: l.text ++ t) :
    Block.closingWord <:+: t := by
  have hat : '@' ∉ l.name ++ ':' :: ':' :: (l.blank ++ l.body ++ l.behind ++ ';' :: l.after) := by
    have hname := notMem_of_isName l.isName_name (c := '@') (by decide)
    have hafter := l.closing.notMem (c := '@') (by decide) (by decide)
    simp [hname, hafter, l.allBlank.notMem (c := '@') (by decide), l.at_notMem,
      l.allBlank_behind.notMem (c := '@') (by decide)]
  rw [text, List.append_assoc] at h
  rcases List.infix_cons_iff.mp ((Text.infix_append_of_notMem l.opening.notMem _).mp h) with hp | hi
  · have hname : ['e', 'n', 'd', '-'] <+: l.name ++ ':' :: (':' ::
        (l.blank ++ l.body ++ l.behind ++ ';' :: l.after) ++ t) := by
      simpa using (List.cons_prefix_cons.mp hp).2
    exact absurd (Text.prefix_of_notMem (by decide) hname) l.not_end
  · exact (Text.infix_append_of_notMem hat t).mp hi

/-! ### The scan for line directives -/

/-- The name characters at the start of the text, if any, end in front of something else
than a colon. -/
def Unopened (s : Text) : Prop :=
  (s.dropWhile Name.isChar).head? ≠ some ':'

theorem Unopened.append {a s : Text} (ha : ':' ∉ a) (h : Unopened s) : Unopened (a ++ s) := by
  induction a with
  | nil => exact h
  | cons c a ih =>
    rw [Unopened, List.cons_append, List.dropWhile_cons]
    split
    · exact ih fun hm => ha (List.mem_cons_of_mem c hm)
    · intro hhead
      cases hhead
      exact ha (List.mem_cons_self ..)

theorem unopened_cons {c : Char} (hc : Name.isChar c = false) (hne : c ≠ ':') (s : Text) :
    Unopened (c :: s) := by
  rw [Unopened, List.dropWhile_cons, if_neg (by simp [hc])]
  simpa using hne

/-- The first character of a marker is neither a colon nor part of a name. -/
theorem unopened_marker {marker : Text} (h : marker ∈ Marker.all) (hne : marker ≠ Marker.htmlClose)
    (s : Text) : Unopened (marker ++ s) := by
  simp only [Marker.all, List.mem_cons, List.not_mem_nil, or_false] at h
  rcases h with rfl | rfl | rfl | rfl | rfl
  · exact unopened_cons (by decide) (by decide) _
  · exact absurd rfl hne
  all_goals exact unopened_cons (by decide) (by decide) _

theorem BlockItem.unopened (b : BlockItem) (t : Text) : Unopened (b.text ++ t) := by
  obtain ⟨html, comment, hh, hc, hmarkers⟩ := b.opening
  rw [text, hmarkers]
  cases hh with
  | some hm _ =>
    rw [List.mem_singleton.mp hm]
    simp only [List.append_assoc]
    exact unopened_marker (by decide) (by decide) _
  | none =>
    cases hc with
    | none => exact unopened_cons (by decide) (by decide) _
    | some hm _ =>
      simp only [List.nil_append, List.append_assoc]
      simp only [List.mem_cons, List.not_mem_nil, or_false] at hm
      rcases hm with rfl | rfl <;> exact unopened_marker (by decide) (by decide) _

theorem LineItem.unopened (l : LineItem) (t : Text) : Unopened (l.text ++ t) := by
  obtain ⟨html, comment, hh, hc, hmarkers⟩ := l.opening
  rw [text, hmarkers]
  cases hh with
  | some hm _ =>
    rw [List.mem_singleton.mp hm]
    simp only [List.append_assoc]
    exact unopened_marker (by decide) (by decide) _
  | none =>
    cases hc with
    | none => exact unopened_cons (by decide) (by decide) _
    | some hb _ =>
      simp only [List.nil_append, List.append_assoc]
      exact Unopened.append (hb.notMem (by decide)) (unopened_marker (by decide) (by decide) _)

/-- An `@` that begins no opener is passed over. -/
theorem lines_at {s : Text} (h : ∀ t, s.dropWhile Name.isChar ≠ ':' :: ':' :: t) :
    (Scan.lines ('@' :: s)).directives = (Scan.lines s).directives := by
  refine Scan.directives_of_none (r := Line.reading) (Line.reading.at?_eq_none fun name rest hopen => ?_)
  obtain ⟨hname, markers, hm, hs⟩ := Line.open?_eq_some_iff.mp hopen
  obtain ⟨-, rfl⟩ := Text.append_cons_inj List.not_mem_nil hm.notMem hs
  refine absurd ?_ (h rest)
  rw [List.dropWhile_append_of_pos (isChar_of_isName hname)]
  rfl

theorem BlockItem.lines_append (b : BlockItem) {t : Text} (h : Unopened t) :
    (Scan.lines (b.text ++ t)).directives = (Scan.lines t).directives := by
  obtain ⟨w, hword, -, hw⟩ := b.closingWord.exists_eq_cons b.isName_name
  have hat : '@' ∉ b.name ++ ':' :: (b.blank ++ b.body ++ b.before) := by
    have hname := notMem_of_isName b.isName_name (c := '@') (by decide)
    simp [hname, b.allBlank.notMem (c := '@') (by decide), b.tight.at_notMem, b.beforeWord.notMem.1]
  -- behind the name of the opener stand a colon and white space
  have hopener : ∀ s t', (b.name ++ ':' :: (b.blank ++ s)).dropWhile Name.isChar ≠ ':' :: ':' :: t' := by
    intro s t' hdrop
    rw [List.dropWhile_append_of_pos (isChar_of_isName b.isName_name)] at hdrop
    obtain ⟨c, blank, hblank⟩ := List.exists_cons_of_ne_nil b.blank_ne_nil
    have hc : isBlank c = true := b.allBlank c (hblank ▸ List.mem_cons_self ..)
    rw [hblank] at hdrop
    cases hdrop
    exact absurd hc (by decide)
  have hcloser : ∀ t', (w ++ (b.after ++ t)).dropWhile Name.isChar ≠ ':' :: ':' :: t' := by
    intro t' hdrop
    rw [List.dropWhile_append_of_pos hw] at hdrop
    refine (h.append b.closing.notMem.2.2) ?_
    rw [hdrop]
    rfl
  have htext : b.text ++ t = b.markers ++
      '@' :: (b.name ++ ':' :: (b.blank ++ (b.body ++ b.before ++ '@' :: (w ++ (b.after ++ t))))) := by
    simp [text, hword]
  have hsecond : Text.fromAt (b.name ++ ':' :: (b.blank ++ (b.body ++ b.before ++
      '@' :: (w ++ (b.after ++ t))))) = '@' :: (w ++ (b.after ++ t)) := by
    have hsplit := Text.fromAt_append hat ('@' :: (w ++ (b.after ++ t)))
    simpa [Text.fromAt_at] using hsplit
  have hend : Text.fromAt (w ++ (b.after ++ t)) = Text.fromAt t := by
    have hnot : '@' ∉ w := fun hm => absurd (hw _ hm) (by decide)
    rw [Text.fromAt_append hnot, Text.fromAt_append b.closing.notMem.1]
  rw [htext]
  calc (Scan.lines (b.markers ++ '@' :: _)).directives
      = (Scan.lines ('@' :: _)).directives :=
        Scan.directives_congr (r := Line.reading) (Text.fromAt_append b.opening.notMem _)
    _ = (Scan.lines (b.name ++ ':' :: (b.blank ++ _))).directives := lines_at (hopener _)
    _ = (Scan.lines ('@' :: (w ++ (b.after ++ t)))).directives :=
        Scan.directives_congr (r := Line.reading) hsecond
    _ = (Scan.lines (w ++ (b.after ++ t))).directives := lines_at hcloser
    _ = (Scan.lines t).directives := Scan.directives_congr (r := Line.reading) hend

theorem LineItem.lines_append (l : LineItem) (t : Text) :
    (Scan.lines (l.text ++ t)).directives = (l.name, l.body) :: (Scan.lines t).directives := by
  have hopen : Line.open? (l.text ++ t) =
      some (l.name, l.blank ++ (l.body ++ (l.behind ++ ';' :: (l.after ++ t)))) :=
    Line.open?_eq_some_iff.mpr ⟨l.isName_name, l.markers, l.opening, by simp [text]⟩
  obtain ⟨rest, hfind, hrest⟩ := l.tight.find_eq l.allBlank l.allBlank_behind (l.after ++ t)
  rw [Text.fromAt_append (l.closing.notMem (by decide) (by decide))] at hrest
  refine (Scan.directives_of_found (r := Line.reading) hopen hfind).trans ?_
  rw [Scan.directives_congr hrest]
  rfl

/-! ### Tokens -/

namespace Token

/-- What a token says of a directive. -/
def directive (token : Token) : Form × Text × Text :=
  (token.form, token.name, token.content)

theorem ofBlock_tight {found : Nat × Occurrence} {rest : Text}
    (h : Block.reading.Stands found.2 rest) (hbody : Block.Tight found.2.body)
    (htab : '\t' ∉ found.2.body) (stripTabs : Bool) :
    ∃ token, ofBlock stripTabs found = .ok token ∧
      token.directive = (.block, found.2.name, found.2.body) := by
  obtain ⟨before, -, -, hbefore, -, -, -, hinside⟩ := Block.exists_closer h
  have hshaped := Block.shaped_of_stands h
  rw [hinside] at hshaped
  cases stripTabs with
  | false =>
    have hmatch := hshaped.trim.match?_eq_tight h.blank_allBlank hbody hbefore
    exact ⟨_, ofOccurrence_ok (Whole.ofText?_block hmatch), rfl⟩
  | true =>
    have hshaped := hshaped.withoutTabs.trim
    rw [Text.withoutTabs_append, Text.withoutTabs_append, Text.withoutTabs_eq_self htab] at hshaped
    have hmatch := hshaped.match?_eq_tight h.blank_allBlank.withoutTabs hbody hbefore.withoutTabs
    exact ⟨_, ofOccurrence_ok (Whole.ofText?_block hmatch), rfl⟩

theorem ofLine_tight {found : Nat × Occurrence} {rest : Text}
    (h : Line.reading.Stands found.2 rest) (hbody : Text.Firm found.2.body) :
    ∃ token, ofLine found = .ok token ∧ token.directive = (.line, found.2.name, found.2.body) := by
  obtain ⟨behind, after, hbehind, hafter, hcloser⟩ := Line.exists_closer h
  have hshaped := Line.shaped_of_stands h hafter hcloser
  have hmatch := hshaped.trim.match?_eq_tight h.blank_allBlank hbody hbehind
  have hnone := hshaped.trim.block_match?_eq_none
  exact ⟨_, ofOccurrence_ok (Whole.ofText?_line hnone hmatch), rfl⟩

/-- Tokens that say what was found say the scan's names and bodies. -/
theorem map_directive {form : Form} {scan : Scan} {tokens : List Token}
    (h : List.Forall₂ (fun found token => token.directive = (form, found.2.name, found.2.body))
      scan.located tokens) :
    tokens.map directive = scan.directives.map fun found => (form, found) := by
  have hall : ∀ {found : List (Nat × Occurrence)} {tokens : List Token},
      List.Forall₂ (fun found token => token.directive = (form, found.2.name, found.2.body))
        found tokens → tokens.map directive = found.map fun found => (form, found.2.name, found.2.body) := by
    intro found tokens h
    induction h with
    | nil => rfl
    | cons hfirst _ ih => rw [List.map_cons, List.map_cons, hfirst, ih]
  rw [hall h, Scan.directives, ← Scan.map_located, List.map_map, List.map_map]
  rfl

/-- Where a scan finds the items of a document, and reading them again gives what was
found, the tokens are those of the items. -/
theorem exists_tokens {α : Type} {form : Form} {f : Nat × Occurrence → Except GrammarError Token}
    {scan : Scan} {items : List (Gap × α)} (written : α → Text × Text)
    (hscan : scan.directives = items.map fun pair => written pair.2)
    (hread : ∀ found ∈ scan.located, ∀ a, written a = (found.2.name, found.2.body) →
      ∃ token, f found = .ok token ∧ token.directive = (form, found.2.name, found.2.body)) :
    ∃ tokens, scan.located.mapM f = .ok tokens ∧
      tokens.map directive = items.map fun pair => (form, written pair.2) := by
  obtain ⟨tokens, htokens, hall⟩ := mapM_ok (f := f) (l := scan.located)
    (R := fun found token => token.directive = (form, found.2.name, found.2.body)) fun found hmem => by
      have hfound := Scan.mem_directives hmem
      rw [hscan] at hfound
      obtain ⟨pair, -, hpair⟩ := List.mem_map.mp hfound
      exact hread found hmem pair.2 hpair
  refine ⟨tokens, htokens, ?_⟩
  rw [map_directive hall, hscan, List.map_map]
  rfl

end Token

/-! ### The document -/

namespace Document

variable (d : Document)

theorem blocks_directives :
    (Scan.blocks d.text).directives = d.blocks.map fun pair => (pair.2.name, pair.2.body) := by
  have hword : ¬ Block.closingWord <:+: written LineItem.text d.lines d.rest.1 := by
    refine written_induction (motive := fun t => ¬ Block.closingWord <:+: t) ?_ ?_ ?_ d.lines
    · rintro ⟨p, q, hrest⟩
      exact d.rest.2.1 (hrest ▸ by simp [Block.closingWord])
    · exact fun gap t h hword => h ((Text.infix_append_of_notMem gap.2.1 t).mp hword)
    · exact fun l t h hword => h (LineItem.word_of_append hword)
  have hblocks := directives_written (r := Block.reading)
    (fun b t => BlockItem.blocks_append b t) d.blocks (written LineItem.text d.lines d.rest.1)
  have hnone : (Scan.ofText Block.reading.at? (written LineItem.text d.lines d.rest.1)).directives = [] :=
    blocks_of_not_word hword
  rw [hnone, List.append_nil] at hblocks
  exact hblocks

theorem lines_directives :
    (Scan.lines d.text).directives = d.lines.map fun pair => (pair.2.name, pair.2.body) := by
  have hlines : (Scan.lines (written LineItem.text d.lines d.rest.1)).directives =
      d.lines.map fun pair => (pair.2.name, pair.2.body) := by
    refine (directives_written (r := Line.reading) (fun l t => LineItem.lines_append l t)
      d.lines d.rest.1).trans ?_
    rw [Scan.directives_of_notMem d.rest.2.1, List.append_nil]
  have hunopened : Unopened (written LineItem.text d.lines d.rest.1) := by
    refine written_induction ?_ (fun gap t h => h.append gap.2.2) (fun l t _ => l.unopened t) d.lines
    have hnil : Unopened [] := by simp [Unopened]
    exact List.append_nil d.rest.1 ▸ hnil.append d.rest.2.2
  -- every block leaves the line directives behind it as they are
  have hblocks : Unopened d.text ∧ (Scan.lines d.text).directives =
      (Scan.lines (written LineItem.text d.lines d.rest.1)).directives := by
    refine written_induction (motive := fun t => Unopened t ∧ (Scan.lines t).directives =
      (Scan.lines (written LineItem.text d.lines d.rest.1)).directives) ⟨hunopened, rfl⟩ ?_ ?_ d.blocks
    · rintro gap t ⟨ht, hsame⟩
      refine ⟨ht.append gap.2.2, Eq.trans ?_ hsame⟩
      exact Scan.directives_congr (r := Line.reading) (Text.fromAt_append gap.2.1 t)
    · rintro b t ⟨ht, hsame⟩
      exact ⟨b.unopened t, (b.lines_append ht).trans hsame⟩
  exact hblocks.2.trans hlines

/-- **What is written is read.** A document has its tokens, with the tabs of blocks
stripped or not: its blocks and then its line directives, each with the name and the
body it was written with. -/
theorem ofText_text (stripTabs : Bool) :
    ∃ tokens, Token.ofText stripTabs d.text = .ok tokens ∧
      tokens.map (fun token => (token.form, token.name, token.content)) =
        d.blocks.map (fun pair => (.block, pair.2.name, pair.2.body)) ++
          d.lines.map (fun pair => (.line, pair.2.name, pair.2.body)) := by
  obtain ⟨blocks, hblocks, hmapblocks⟩ := Token.exists_tokens (f := Token.ofBlock stripTabs)
    (fun b : BlockItem => (b.name, b.body)) d.blocks_directives fun found hmem b hb => by
      obtain ⟨-, rest, hstands⟩ := Token.exists_stands (r := Block.reading) hmem
      have hbody : b.body = found.2.body := (Prod.mk.inj hb).2
      exact Token.ofBlock_tight hstands (hbody ▸ b.tight) (hbody ▸ b.tab_notMem) stripTabs
  obtain ⟨lines, hlines, hmaplines⟩ := Token.exists_tokens (f := Token.ofLine)
    (fun l : LineItem => (l.name, l.body)) d.lines_directives fun found hmem l hl => by
      obtain ⟨-, rest, hstands⟩ := Token.exists_stands (r := Line.reading) hmem
      have hbody : l.body = found.2.body := (Prod.mk.inj hl).2
      exact Token.ofLine_tight hstands (hbody ▸ l.tight.firm)
  refine ⟨blocks ++ lines, Token.ofText_eq_ok hblocks hlines, ?_⟩
  rw [List.map_append]
  exact congrArg₂ (· ++ ·) hmapblocks hmaplines

/-- A block in a comment with stars, and a line directive behind it. -/
example : ∃ d : Document, d.text =
    ['/', '*', ':', ' ', '@', 'a', 'a', ':', ' ', 'x', ' ', '@', 'e', 'n', 'd', '-', 'a', 'a', ' ', '*', '/',
      '\n', '@', 'b', 'b', ':', ':', ' ', '\\', ';', ';'] := by
  have hspace : AllBlank [' '] := by simp [AllBlank, isBlank]
  let block : BlockItem := {
    name := ['a', 'a'], body := ['x'], markers := Marker.starOpen ++ [' '], blank := [' ']
    before := [' '], word := Block.closingWord ++ ['a', 'a'], after := [' '] ++ Marker.starClose ++ [] ++ []
    isName_name := by decide
    tight := ⟨⟨by decide, by decide⟩, by decide, by decide⟩
    tab_notMem := by decide
    opening := ⟨[], Marker.starOpen ++ [' '], .none, .some (by simp) hspace, rfl⟩
    allBlank := hspace
    blank_ne_nil := by decide
    beforeWord := ⟨[' '], [], hspace, .none, rfl⟩
    closingWord := .same
    closing := ⟨_, [], .some hspace Text.allBlank_nil, .none, rfl⟩ }
  let line : LineItem := {
    name := ['b', 'b'], body := ['\\', ';'], markers := [], blank := [' '], behind := [], after := []
    isName_name := by decide
    not_end := by decide
    tight := ⟨⟨by decide, by decide⟩, .escaped ';' .nil⟩
    at_notMem := by decide
    opening := ⟨[], [], .none, .none, rfl⟩
    allBlank := hspace
    allBlank_behind := Text.allBlank_nil
    closing := .none }
  exact ⟨⟨[(⟨[], by decide⟩, block)], [(⟨['\n'], by decide⟩, line)], ⟨[], by decide⟩⟩, rfl⟩

end Document
end Directives
