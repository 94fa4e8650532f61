import Directives.Proofs.Consistency
import Directives.Proofs.Coverage
import Directives.Proofs.Grammar.Whole

/-! Emptying a directive.

An empty parameter takes the content of a directive out of its text; its opener and its
closer stay, and the white space around the content. What stands in front is read as
before (`Block.reaches_replace`, `Line.reaches_replace`). White space that is left becomes
the body, and the directive is found again. Where there was none the directive is `Bare`: a
line directive is none any more, a block only if another closing word follows further on.
And a block with nothing but tabs left is an error where tabs are stripped
(`Directive.rebuild_clear_iff`). -/
namespace Directives

open Text (AllBlank byteSize)

/-! ### In front of a line directive -/

/-- Units do not end between two colons. -/
theorem Body.Units.of_colons {s a b : Text} (h : Units s) (hs : s = a ++ ':' :: ':' :: b) :
    Units (a ++ [':', ':']) := by
  have hcolon : ∀ {s}, Units s → Units (':' :: s) := .plain (by decide) (by decide)
  induction h generalizing a with
  | nil => simp at hs
  | @escaped c s _ ih =>
    match a with
    | [] => exact absurd (List.cons.inj hs).1 (by decide)
    | [d] =>
      obtain ⟨rfl, -⟩ := List.cons.inj hs
      exact .escaped ':' (hcolon .nil)
    | d :: e :: a =>
      obtain ⟨rfl, htail⟩ := List.cons.inj hs
      obtain ⟨rfl, hrest⟩ := List.cons.inj htail
      exact .escaped c (ih hrest)
  | @plain c s hc hsemi _ ih =>
    cases a with
    | nil => exact hcolon (hcolon .nil)
    | cons d a =>
      obtain ⟨rfl, htail⟩ := List.cons.inj hs
      exact .plain hc hsemi (ih htail)

namespace Line

/-- A closer does not see past an `@`. -/
theorem close?_append_at (p x : Text) : close? (p ++ '@' :: x) = (close? p).map (· ++ '@' :: x) := by
  unfold close?
  rw [Text.trimStart_append (Text.trimStart_at x), Text.after?_append_cons (by decide), Option.map_map,
    Option.map_map]
  congr 1
  funext rest
  exact Marker.skipFloating_append_at (by decide) rest x

theorem close?_replace {p rest x y : Text} (h : close? (p ++ '@' :: x) = some (rest ++ '@' :: x)) :
    close? (p ++ '@' :: y) = some (rest ++ '@' :: y) := by
  rw [close?_append_at] at h ⊢
  obtain ⟨r, hr, heq⟩ := Option.map_eq_some_iff.mp h
  rw [hr, List.append_cancel_right heq, Option.map_some]

/-- What stands behind an `@` does not change how a line directive in front of it is read. -/
theorem Stands.replace {o : Occurrence} {gap x : Text} (h : reading.Stands o (gap ++ '@' :: x)) (y : Text) :
    reading.Stands o (gap ++ '@' :: y) := by
  have hfound := h.found
  refine ⟨h.named, h.opener, ?_⟩
  show Body.find Body.shortestEscaped close? _ = _
  rw [List.append_assoc, ← List.append_assoc o.closer] at hfound ⊢
  refine Body.find_congr Body.shortestEscaped_eq_some Body.Ends.shortestEscaped_eq hfound ?_ (fun d hd => ?_)
    (fun hstart => ?_) fun hstart _ => ?_
  · have hclose := close?_closer h
    rw [← List.append_assoc] at hclose
    exact close?_replace hclose
  · rw [← List.append_assoc] at hd ⊢
    rw [close?_append_at, Option.map_eq_none_iff] at hd ⊢
    exact hd
  · rw [Text.trimStart_append (Text.trimStart_at _)] at hstart ⊢
    rw [List.append_cancel_right hstart]
  · -- the `;` follows, which is no unit of a body
    obtain ⟨behind, after, hbehind, -, hcloser⟩ := exists_closer h
    rw [hcloser, List.append_assoc, List.append_assoc] at hstart
    rw [hcloser, hbehind.eq_nil_of_trimStart hstart]
    simp [Body.shortestEscaped]

/-- Units that end at a `;` do so with another inside behind an opener, too: in front of the opener they
are the same, and a unit ends behind its colons. -/
theorem exists_units_replace {u name w y after inside : Text} (hname : isName name = true) (hw : Body.Units w)
    (hne : w ≠ []) (hs : u ++ '@' :: (name ++ [':', ':'] ++ y) = w ++ ';' :: after) (hinside : Body.Units inside)
    (z : Text) : ∃ w' after', Body.Units w' ∧ w' ≠ [] ∧
      u ++ '@' :: (name ++ [':', ':'] ++ (inside ++ ';' :: z)) = w' ++ ';' :: after' := by
  rcases List.append_eq_append_iff.mp hs with ⟨e, rfl, he⟩ | ⟨e, rfl, he⟩
  · cases e with
    | nil => exact absurd (List.cons.inj he).1 (by decide)
    | cons c e =>
      obtain ⟨rfl, htail⟩ := List.cons.inj he
      have hsemi : ';' ∉ name ++ [':', ':'] :=
        List.not_mem_append (notMem_of_isName hname (by decide)) (by decide)
      obtain ⟨e, rfl⟩ := Text.prefix_of_notMem hsemi ⟨y, htail⟩
      have hunits := hw.of_colons (a := u ++ '@' :: name) (b := e) (by simp)
      exact ⟨_, z, hunits.append hinside, by simp, by simp⟩
  · cases e with
    | nil => exact absurd (List.cons.inj he).1 (by decide)
    | cons c e =>
      obtain ⟨rfl, -⟩ := List.cons.inj he
      exact ⟨w, _, hw, hne, by rw [List.append_assoc, List.cons_append]⟩

/-- Where nothing was read in front of a line directive, nothing is, whatever stands behind its opener. -/
theorem at?_eq_none_replace {o : Occurrence} {rest p : Text} (ho : reading.Stands o rest)
    (h : at? (p ++ (o.text ++ rest)) = none) (y : Text) : at? (p ++ (o.opener ++ y)) = none := by
  rw [← Option.not_isSome_iff_eq_none, ← begins_iff] at h ⊢
  rintro ⟨markers, name, blank, body, behind, after, hm, hname, hblank, hunits, hne, hbehind, hs⟩
  obtain ⟨opening, -, hopener⟩ := ho.opener
  have hopener : o.opener = opening ++ '@' :: (o.name ++ [':', ':']) := hopener
  obtain ⟨behind', after', hbehind', -, hcloser⟩ := exists_closer ho
  have hinside : Body.Units (o.blank ++ o.body ++ behind') :=
    ((Body.units_of_allBlank ho.blank_allBlank).append (units_body ho)).append (Body.units_of_allBlank hbehind')
  have hold : p ++ (o.text ++ rest) = p ++ opening ++
      '@' :: (o.name ++ [':', ':'] ++ (o.blank ++ o.body ++ behind' ++ ';' :: (after' ++ rest))) := by
    simp [Occurrence.text, hopener, hcloser]
  have hnew : p ++ (o.opener ++ y) = p ++ opening ++ '@' :: (o.name ++ [':', ':'] ++ y) := by simp [hopener]
  -- the opener that is read is that of the line directive, or one further in front
  suffices hread : ∃ m n w z, Opening m ∧ isName n = true ∧ Body.Units w ∧ w ≠ [] ∧
      p ++ (o.text ++ rest) = m ++ '@' :: (n ++ ':' :: ':' :: (w ++ ';' :: z)) by
    obtain ⟨m, n, w, z, hm, hn, hw, hne, hread⟩ := hread
    exact h ⟨m, n, [], w, [], z, hm, hn, Text.allBlank_nil, hw, hne, Text.allBlank_nil, by simpa using hread⟩
  rw [hnew] at hs
  rw [hold]
  by_cases hp : '@' ∈ p ++ opening
  · obtain ⟨q, t, hq, hnot⟩ := List.eq_append_cons_of_mem hp
    rw [hq, List.append_assoc, List.cons_append] at hs ⊢
    obtain ⟨rfl, hbody⟩ := Text.append_cons_inj hnot hm.notMem hs
    have hat : '@' ∉ name ++ [':', ':'] :=
      List.not_mem_append (notMem_of_isName hname (by decide)) (by decide)
    obtain ⟨u, rfl⟩ := Text.prefix_of_notMem hat
      ⟨blank ++ body ++ behind ++ ';' :: after, by rw [hbody]; simp⟩
    have hunits : Body.Units (blank ++ body ++ behind) :=
      ((Body.units_of_allBlank hblank).append hunits).append (Body.units_of_allBlank hbehind)
    have hsplit : u ++ '@' :: (o.name ++ [':', ':'] ++ y) = blank ++ body ++ behind ++ ';' :: after := by
      simpa using hbody
    obtain ⟨w, z, hw, hwne, hread⟩ :=
      exists_units_replace ho.named hunits (by simp [hne]) hsplit hinside (after' ++ rest)
    refine ⟨q, name, w, z, hm, hname, hw, hwne, ?_⟩
    rw [List.append_assoc _ u, hread]
    simp
  · obtain ⟨rfl, -⟩ := Text.append_cons_inj hp hm.notMem hs
    exact ⟨_, o.name, _, after' ++ rest, hm, ho.named, hinside, by simp [ho.body_ne_nil], by simp⟩

/-- What stands behind the opener of a line directive leaves what is in front as it is. -/
theorem reaches_replace {o : Occurrence} {rest s : Text} (ho : reading.Stands o rest)
    (h : Scan.Reaches at? s (o.text ++ rest)) (y : Text) :
    Scan.SameInFront reading s (o.text ++ rest) (o.opener ++ y) := by
  obtain ⟨opening, -, hopener⟩ := ho.opener
  refine Scan.Reaches.replace (r := reading) (fun {found gap} hstands => ?_)
    (fun hnone => at?_eq_none_replace ho hnone y) h
  have hsplit : ∀ z, gap ++ (o.opener ++ z) = gap ++ opening ++ '@' :: (o.name ++ (reading.colons ++ z)) := by
    intro z
    simp [hopener]
  rw [Occurrence.text, List.append_assoc o.opener, List.append_assoc o.opener, List.append_assoc o.opener,
    hsplit] at hstands
  rw [hsplit]
  exact Stands.replace hstands _

end Line

/-! ### What is left of a directive -/

/-- Between `front` and `back` nothing is left but the opener and the closer of a directive. -/
def Form.Bare (form : Form) (front back : Text) : Prop :=
  front.getLast? = some ':' ∧ back.head? = some form.mark

namespace Form

variable {form : Form} {o : Occurrence} {rest : Text}

/-- Bare is what had no white space around its body. -/
theorem bare_iff (h : form.reading.Stands o rest) (before : Text) :
    form.Bare (before ++ (o.opener ++ o.blank)) (o.closer ++ rest) ↔
      o.blank = [] ∧ (o.closer ++ rest).head? = some form.mark := by
  refine and_congr_left fun _ => ?_
  obtain ⟨markers, -, hopener⟩ := h.opener
  rcases List.eq_nil_or_concat o.blank with hnil | ⟨blank, c, hblank⟩
  · have hcolon : form.reading.colons.getLast? = some ':' := by cases form <;> rfl
    simp [hnil, hopener, List.getLast?_cons, hcolon]
  · rw [List.concat_eq_append] at hblank
    have hc : c ≠ ':' := by
      rintro rfl
      exact absurd (h.blank_allBlank ':' (by simp [hblank])) (by decide)
    simp [hblank, hc]

/-- What is not bare is read as a directive of its form: white space is its body. -/
theorem at?_isSome_of_not_bare (h : form.reading.Stands o rest)
    (hbare : ¬ (o.blank = [] ∧ (o.closer ++ rest).head? = some form.mark)) :
    (form.reading.at? (o.opener ++ (o.blank ++ (o.closer ++ rest)))).isSome = true := by
  obtain ⟨markers, hm, hopener⟩ := h.opener
  cases form with
  | block =>
    obtain ⟨before, word, after, hbefore, hw, -, hcloser, -⟩ := Block.exists_closer h
    have hsplit : o.opener ++ (o.blank ++ (o.closer ++ rest)) =
        markers ++ '@' :: (o.name ++ ':' :: (o.blank ++ before ++ (word ++ (after ++ rest)))) := by
      simp [hopener, hcloser, reading, Block.reading]
    have hne : o.blank ++ before ≠ [] := by
      intro hnil
      obtain ⟨hblank, rfl⟩ := List.append_eq_nil_iff.mp hnil
      obtain ⟨t, rfl, -, -⟩ := hw.exists_eq_cons h.named
      exact hbare ⟨hblank, by rw [hcloser]; rfl⟩
    rw [hsplit]
    exact Block.begins_iff.mp ⟨markers, o.name, _, word, _, hm, h.named, hne, hw, rfl⟩
  | line =>
    obtain ⟨behind, after, hbehind, -, hcloser⟩ := Line.exists_closer h
    have hsplit : o.opener ++ (o.blank ++ (o.closer ++ rest)) =
        markers ++
          '@' :: (o.name ++ ':' :: ':' :: ([] ++ (o.blank ++ behind) ++ [] ++ ';' :: (after ++ rest))) := by
      simp [hopener, hcloser, reading, Line.reading]
    have hne : o.blank ++ behind ≠ [] := by
      intro hnil
      obtain ⟨hblank, rfl⟩ := List.append_eq_nil_iff.mp hnil
      exact hbare ⟨hblank, by rw [hcloser]; rfl⟩
    have hunits := Body.units_of_allBlank (h.blank_allBlank.append hbehind)
    rw [hsplit]
    exact Line.begins_iff.mp ⟨markers, o.name, [], _, [], _, hm, h.named, Text.allBlank_nil, hunits, hne,
      Text.allBlank_nil, rfl⟩

/-- The scan comes to what is left of a directive as it came to the directive. -/
theorem reaches_emptied (h : form.reading.Stands o rest) {before : Text}
    (hreaches : Scan.Reaches form.reading.at? (before ++ (o.text ++ rest)) (o.text ++ rest)) :
    Scan.Reaches form.reading.at? (before ++ (o.opener ++ (o.blank ++ (o.closer ++ rest))))
      (o.opener ++ (o.blank ++ (o.closer ++ rest))) := by
  have hsame : Scan.SameInFront form.reading (before ++ (o.text ++ rest)) (o.text ++ rest)
      (o.opener ++ (o.blank ++ (o.closer ++ rest))) := by
    cases form with
    | block => exact Block.reaches_replace h (h.blank_allBlank.notMem (by decide)) hreaches
    | line => exact Line.reaches_replace h hreaches _
  obtain ⟨front, hfront, hreaches', -⟩ := hsame
  rwa [List.append_cancel_right hfront]

end Form

/-! ### What begins where the directive did -/

namespace Token

variable {stripTabs : Bool} {s t : Text} {tokens : List Token} {token : Token}

/-- Every occurrence that is located has its token. -/
theorem exists_token (form : Form) (h : ofText stripTabs s = .ok tokens) {found : Nat × Occurrence}
    (hmem : found ∈ (Scan.ofText form.reading.at? s).located) :
    ∃ token ∈ tokens, form.reread stripTabs found = .ok token := by
  obtain ⟨blocks, lines, rfl, hblocks, hlines⟩ := ofText_eq_ok_iff.mp h
  cases form with
  | block =>
    obtain ⟨token, htoken, hok⟩ := exists_of_forall₂ hblocks.flip hmem
    exact ⟨token, List.mem_append_left _ htoken, hok⟩
  | line =>
    obtain ⟨token, htoken, hok⟩ := exists_of_forall₂ hlines.flip hmem
    exact ⟨token, List.mem_append_right _ htoken, hok⟩

/-- A block of the text begins at the byte, white space in front of it left out. -/
def BlockBegins (s : Text) (start : Nat) : Prop :=
  ∃ found ∈ (Scan.blocks s).located, (trimmedSpan found.1 found.2).start = start

/-- The text has its tokens, and one of them begins at the byte. -/
def BeginsAt (stripTabs : Bool) (s : Text) (start : Nat) : Prop :=
  ∃ tokens, ofText stripTabs s = .ok tokens ∧ ∃ token ∈ tokens, token.span.start = start

theorem BlockBegins.beginsAt {start : Nat} (h : BlockBegins s start) (hok : ofText stripTabs s = .ok tokens) :
    BeginsAt stripTabs s start := by
  obtain ⟨found, hfound, hstart⟩ := h
  obtain ⟨token, htoken, hreread⟩ := exists_token .block hok hfound
  exact ⟨tokens, hok, token, htoken, by rw [span_of_reread hreread, hstart]⟩

variable {front markers behind : Text}

/-- What begins where nothing is left between opener and closer is a block: a line directive has a
body, and no unit of one is a `;`. -/
theorem form_of_bare (h : ofText stripTabs s = .ok tokens) {found : Token} (hmem : found ∈ tokens)
    (hbegins : Begins s token front markers behind) (hstart : found.span.start = token.span.start)
    (hbare : behind.head? = some token.form.mark) : found.form = .block := by
  obtain ⟨o, -, after, hstands, -, _, _, hfound⟩ := exists_begins h hmem
  obtain ⟨-, hbehind⟩ := hfound.unique hbegins hstart
  cases hform : found.form with
  | block => rfl
  | line =>
    exfalso
    rw [hform] at hstands hbehind
    cases htoken : token.form with
    | block =>
      rw [htoken] at hbehind hbare
      have hsame : ':' :: (o.2.blank ++ o.2.body ++ o.2.closer ++ after) = behind := (List.cons.inj hbehind).2
      rw [← hsame] at hbare
      exact absurd (Option.some.inj hbare) (by decide)
    | line =>
      rw [htoken] at hbehind hbare
      have hsame : o.2.blank ++ o.2.body ++ o.2.closer ++ after = behind :=
        (List.cons.inj (List.cons.inj hbehind).2).2
      have hunits : Body.Units (o.2.blank ++ o.2.body) :=
        (Body.units_of_allBlank hstands.blank_allBlank).append (Line.units_body hstands)
      obtain ⟨c, u, hcu⟩ := List.exists_cons_of_ne_nil
        (List.append_ne_nil_of_right_ne_nil o.2.blank hstands.body_ne_nil)
      rw [← hsame, hcu] at hbare
      obtain rfl : c = ';' := Option.some.inj hbare
      rw [hcu] at hunits
      cases hunits with
      | plain _ hsemi _ => exact hsemi rfl

/-- Where a directive is read behind the opener of another one, it begins where that one did. -/
theorem exists_located_at (form : Form) {o : Occurrence} {rest before : Text} (h : form.reading.Stands o rest)
    (hreaches : Scan.Reaches form.reading.at? (before ++ (o.opener ++ behind)) (o.opener ++ behind))
    (hsome : (form.reading.at? (o.opener ++ behind)).isSome = true) :
    ∃ found ∈ (Scan.ofText form.reading.at? (before ++ (o.opener ++ behind))).located,
      (trimmedSpan found.1 found.2).start = (trimmedSpan (byteSize before) o).start := by
  obtain ⟨found, after, hsplit, hstands⟩ := form.reading.isSome_at?_iff.mp hsome
  have hopener : ¬ AllBlank o.opener := by
    obtain ⟨markers, -, hopener⟩ := h.opener
    exact fun hblank => hblank.notMem (c := '@') (by decide) (by simp [hopener])
  have hlead : Text.leadingBlank (found.text ++ after) = Text.leadingBlank (o.text ++ rest) := by
    rw [← hsplit, Occurrence.text, List.append_assoc o.opener, List.append_assoc o.opener,
      List.append_assoc o.opener, Text.leadingBlank_of_not_allBlank hopener,
      Text.leadingBlank_of_not_allBlank hopener]
  refine ⟨(byteSize before, found), Scan.mem_located_iff.mpr
    ⟨before, after, by rw [hsplit], rfl, hstands, ?_⟩, ?_⟩
  · rwa [← hsplit]
  · rw [trimmedSpan_start hstands.not_allBlank _ after, trimmedSpan_start h.not_allBlank _ rest, hlead]

/-- Behind the opener of a block one begins exactly if a closing word follows further on. -/
theorem blockBegins_iff {o : Occurrence} {rest before : Text} (h : Block.reading.Stands o rest)
    (hreaches : Scan.Reaches Block.at? (before ++ (o.opener ++ behind)) (o.opener ++ behind)) :
    BlockBegins (before ++ (o.opener ++ behind)) (trimmedSpan (byteSize before) o).start ↔
      Block.HoldsWord o.name behind.tail := by
  obtain ⟨markers, hm, hopener⟩ := h.opener
  have hopen : Block.open? (o.opener ++ behind) = some (o.name, behind) :=
    Block.open?_eq_some_iff.mpr ⟨h.named, markers, hm, by simp [hopener, Block.reading]⟩
  rw [← Block.at?_isSome_iff hopen]
  constructor
  · rintro ⟨found, hmem, hstart⟩
    obtain ⟨before', after, hs, hfound, hstands, -⟩ := (Scan.mem_located_iff (r := Block.reading)).mp hmem
    rw [trimmedSpan_block hstands, trimmedSpan_block h, hfound] at hstart
    obtain ⟨-, hplace⟩ := Text.append_inj_of_byteSize hs hstart.symm
    rw [hplace]
    exact Block.reading.isSome_at?_iff.mpr ⟨found.2, after, rfl, hstands⟩
  · exact exists_located_at .block h hreaches

theorem exists_ofText_iff : (∃ tokens, ofText stripTabs s = .ok tokens) ↔
    ∀ o ∈ (Scan.blocks s).occurrences, (stripTabs && o.onlyTabs) = false := by
  refine ⟨fun ⟨tokens, hok⟩ o ho => ?_, fun hgood => ?_⟩
  · rw [Bool.eq_false_iff, ne_eq, Bool.and_eq_true]
    rintro ⟨rfl, htabs⟩
    obtain ⟨e, herror⟩ := exists_error_iff.mpr ⟨o, ho, htabs⟩
    cases hok.symm.trans herror
  · obtain ⟨blocks, lines, hok, -⟩ := ofText_ok hgood
    exact ⟨_, hok⟩

/-- What begins where a token did, once its content is gone: something of its name, unless a block has
nothing but tabs left or nothing is left of the token and no block begins there. -/
theorem beginsAt_emptied_iff (h : ofText stripTabs s = .ok tokens) (hmem : token ∈ tokens) :
    ∃ front written back, Holds s token front written back ∧
      (∀ emptied, ofText stripTabs (front ++ back) = .ok emptied → ∀ found ∈ emptied,
        found.span.start = token.span.start → found.name = token.name) ∧
      (BeginsAt stripTabs (front ++ back) token.span.start ↔
        (∀ o ∈ (Scan.blocks (front ++ back)).occurrences, (stripTabs && o.onlyTabs) = false) ∧
          (token.form.Bare front back → BlockBegins (front ++ back) token.span.start)) ∧
      (token.form = .block → token.form.Bare front back →
        (BlockBegins (front ++ back) token.span.start ↔ Block.HoldsWord token.name back.tail)) := by
  obtain ⟨o, hfound, before, rest, hok, hstart, hstands, hs, hreaches, hholds⟩ := exists_holds h hmem
  rw [hs] at hreaches
  have hplace := Form.reaches_emptied hstands hreaches
  have hspan : token.span.start = (trimmedSpan (byteSize before) o.2).start := by
    rw [span_of_reread hok, hstart]
  have hsplit : before ++ (o.2.opener ++ o.2.blank) ++ (o.2.closer ++ rest) =
      before ++ (o.2.opener ++ (o.2.blank ++ (o.2.closer ++ rest))) := by
    simp
  obtain ⟨front, markers, hbegins⟩ := exists_begins_of_opener hfound hok hstart hsplit
  have hbare := Form.bare_iff hstands before
  refine ⟨_, _, _, hholds, fun emptied hemptied found hmem hstart => ?_, ⟨?_, ?_⟩, fun hblock hleft => ?_⟩
  · obtain ⟨_, -, _, -, -, _, _, hfound⟩ := exists_begins hemptied hmem
    exact (hfound.unique hbegins hstart).1
  · rintro ⟨emptied, hemptied, found, hmem, hstart⟩
    refine ⟨exists_ofText_iff.mp ⟨emptied, hemptied⟩, fun hleft => ?_⟩
    obtain ⟨hblank, hhead⟩ := hbare.mp hleft
    have hform := form_of_bare hemptied hmem hbegins hstart (by rw [hblank]; exact hhead)
    obtain ⟨place, hplace, hreread⟩ := exists_found hemptied hmem
    rw [hform] at hplace hreread
    exact ⟨place, hplace, by rw [← span_of_reread hreread, hstart]⟩
  · rintro ⟨hgood, hblock⟩
    obtain ⟨emptied, hemptied⟩ := exists_ofText_iff.mpr hgood
    by_cases hleft : token.form.Bare (before ++ (o.2.opener ++ o.2.blank)) (o.2.closer ++ rest)
    · exact (hblock hleft).beginsAt hemptied
    · have hsome := Form.at?_isSome_of_not_bare hstands (mt hbare.mpr hleft)
      obtain ⟨place, hlocated, hstart'⟩ := exists_located_at _ hstands hplace hsome
      rw [← hsplit] at hlocated
      obtain ⟨found, hmem, hreread⟩ := exists_token _ hemptied hlocated
      exact ⟨emptied, hemptied, found, hmem, by rw [span_of_reread hreread, hstart', hspan]⟩
  · obtain ⟨hblank, -⟩ := hbare.mp hleft
    have hname : token.name = o.2.name := (rereads_of_reread hfound hok).name
    rw [hblock] at hstands hplace
    rw [hsplit, hspan, hname, blockBegins_iff hstands hplace, hblank, List.nil_append]

end Token

/-! ### Rebuilding -/

variable {σ : Type}

/-- Where a directive of the entry starts at the byte, the one that is found does. -/
theorem Entry.startingAt_start {entry : Entry σ} {start : Nat} {d : Directive σ} (hmem : d ∈ entry.toList)
    (hstart : d.token.span.start = start) : (entry.startingAt start).token.span.start = start := by
  have hsome : (entry.toList.find? (·.token.span.start == start)).isSome = true :=
    List.find?_isSome.mpr ⟨d, hmem, by simpa using hstart⟩
  obtain ⟨found, hfound⟩ := Option.isSome_iff_exists.mp hsome
  rw [Entry.startingAt, hfound]
  simpa using List.find?_some hfound

namespace Directive

variable {registry : Registry σ} {stripTabs : Bool} {text : Text} {e : Effects σ}
  {ds : List (Directive σ)} {d : Directive σ}

/-- What is rebuilt of the emptied directive is the directive: it calls the same command, begins at the
same byte, and its parameter is the empty text. -/
structure Emptied (d r : Directive σ) : Prop where
  command : r.command = d.command
  start : r.token.span.start = d.token.span.start
  parameter : r.parameter = .text []

/-- **Emptying a directive.** It is rebuilt as itself, with an empty parameter, exactly if no block of the
emptied text loses all it has inside with its tabs, and, where no white space is left between its opener
and its closer, a block begins where it did. For a block that is bare, this is so exactly if another
closing word of its name follows further on. -/
theorem rebuild_clear_iff (h : (parse registry stripTabs text e).1 = .ok ds) (hmem : d ∈ ds)
    (registry' : Registry σ) (e' : Effects σ) :
    ∃ front written back, Token.Holds text d.token front written back ∧ d.clear.consume = front ++ back ∧
      ((∃ r, (rebuild registry' d.clear e').1 = .ok (some r) ∧ Emptied d r) ↔
        (∀ o ∈ (Scan.blocks (front ++ back)).occurrences, (stripTabs && o.onlyTabs) = false) ∧
          (d.token.form.Bare front back → Token.BlockBegins (front ++ back) d.token.span.start)) ∧
      (d.token.form = .block → d.token.form.Bare front back →
        (Token.BlockBegins (front ++ back) d.token.span.start ↔ Block.HoldsWord d.token.name back.tail)) := by
  obtain ⟨tokens, htokens, rfl⟩ := parse_eq_ok_iff.mp h
  obtain ⟨token, htoken, rfl⟩ := List.mem_map.mp hmem
  obtain ⟨front, written, back, hholds, hname, hiff, hword⟩ := Token.beginsAt_emptied_iff htokens htoken
  have hconsume : (bound registry stripTabs text token).clear.consume = front ++ back := by
    show token.replaceContent text [] = front ++ back
    rw [Token.replaceContent, Text.replaced, hholds.splice?, Option.getD_some, List.append_nil]
  refine ⟨front, written, back, hholds, hconsume, Iff.trans ⟨?_, ?_⟩ hiff, hword⟩
  · rintro ⟨r, hrebuild, -, hstart, -⟩
    obtain ⟨emptied, hemptied, found, hfound, -, rfl⟩ := exists_of_rebuild hrebuild
    rw [hconsume] at hemptied
    exact ⟨emptied, hemptied, found, hfound, hstart⟩
  · rintro ⟨emptied, hemptied, found, hfound, hstart⟩
    have hparse : (parse registry' stripTabs (bound registry stripTabs text token).clear.consume e').1 =
        .ok (emptied.map (bound registry' stripTabs (front ++ back))) := by
      rw [hconsume]
      exact parse_of_ofText hemptied registry' e'
    obtain ⟨entry, hget, hlist⟩ := Group.exists_entry (List.mem_map_of_mem hfound)
    have hcommand : (bound registry' stripTabs (front ++ back) found).command = camelCase token.name :=
      congrArg camelCase (hname emptied hemptied found hfound hstart)
    rw [hcommand] at hget hlist
    have hin : bound registry' stripTabs (front ++ back) found ∈ entry.toList := by
      rw [hlist]
      exact List.mem_filter.mpr ⟨List.mem_map_of_mem hfound, by simpa using hcommand⟩
    refine ⟨_, rebuild_of_parse (d := (bound registry stripTabs text token).clear) hparse hget, ?_,
      Entry.startingAt_start hin hstart, rfl⟩
    have hentry := entry.startingAt_mem token.span.start
    rw [hlist] at hentry
    exact of_decide_eq_true (List.mem_filter.mp hentry).2

/-- A block without white space around its content, in front of another closing word. -/
def bareText : Text := "@aa:x@end-aa @end-aa".toList

/-- The token of that block. -/
def bareBlock : Token :=
  ⟨"@aa:x@end-aa".toList, "aa".toList, "x".toList, .block, ⟨0, 12⟩, ⟨4, 5⟩⟩

/-- Nothing is left of the block, but it reaches to the other closing word then. -/
theorem rebuild_clear_further : ∃ r : Directive Unit,
    (rebuild ∅ (bound ∅ true bareText bareBlock).clear ⟨(), []⟩).1 = .ok (some r) ∧
      Emptied (bound ∅ true bareText bareBlock) r := by
  have htokens : Token.ofText true bareText = .ok [bareBlock] := by decide +kernel
  have hparse := parse_of_ofText htokens (∅ : Registry Unit) ⟨(), []⟩
  obtain ⟨front, written, back, hholds, -, hiff, hword⟩ :=
    rebuild_clear_iff hparse (List.mem_singleton_self _) ∅ ⟨(), []⟩
  have hshape : Token.Holds bareText bareBlock "@aa:".toList "x".toList "@end-aa @end-aa".toList :=
    ⟨by decide, by decide⟩
  obtain ⟨rfl, rfl, rfl⟩ := hshape.unique hholds
  have hfurther : Block.HoldsWord "aa".toList ("@end-aa @end-aa".toList).tail :=
    ⟨_, .same, "end-aa ".toList, [], by decide⟩
  have hgood : ∀ o ∈ (Scan.blocks ("@aa:".toList ++ "@end-aa @end-aa".toList)).occurrences,
      (true && o.onlyTabs) = false := by decide +kernel
  exact hiff.mpr ⟨hgood, fun hbare => (hword rfl hbare).mpr hfurther⟩

/-- A line directive without white space around its content is gone once that is. -/
theorem rebuild_clear_lost : ¬ ∀ (registry : Registry Unit) (stripTabs : Bool) (text : Text) (e : Effects Unit)
    (ds : List (Directive Unit)) (d : Directive Unit),
    (parse registry stripTabs text e).1 = .ok ds → d ∈ ds →
    ∃ r, (rebuild registry d.clear e).1 = .ok (some r) ∧ Emptied d r := by
  intro h
  let line : Token := ⟨"@aa::x;".toList, "aa".toList, "x".toList, .line, ⟨0, 7⟩, ⟨5, 6⟩⟩
  have htokens : Token.ofText true line.matched = .ok [line] := by decide +kernel
  have hparse := parse_of_ofText htokens (∅ : Registry Unit) ⟨(), []⟩
  obtain ⟨r, hrebuild, -⟩ := h ∅ true line.matched ⟨(), []⟩ _ _ hparse (List.mem_singleton_self _)
  obtain ⟨tokens, hemptied, token, hmem, -⟩ := exists_of_rebuild hrebuild
  have hnone : Token.ofText true "@aa::;".toList = .ok [] := by decide +kernel
  have hconsume : (bound (∅ : Registry Unit) true line.matched line).clear.consume = "@aa::;".toList := by
    decide
  rw [hconsume] at hemptied
  cases hnone.symm.trans hemptied
  cases hmem

end Directive
end Directives
