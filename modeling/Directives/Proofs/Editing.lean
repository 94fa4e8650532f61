import Directives.Edit
import Directives.Proofs.Document
import Directives.Proofs.Group
import Directives.Proofs.Parsing
import Directives.Proofs.Replacement

/-! Editing one block leaves the others alone.

The bytes of a block's body are replaced, and what lies behind them moves by the
difference (`Span.moved`). The scan of the edited text finds what the scan of the text
found, so that its tokens are those of the text, moved, but for the block's own
(`Token.exists_edited`). Reading the edited text again then gives back the block that was
changed (`Directive.change_text`). -/
namespace Directives

open Text (byteSize)

/-! ### Moved bytes -/

namespace Span

/-- Where byte `n` is once `size` bytes stand in place of those of the span. -/
def moved (replaced : Span) (size n : Nat) : Nat :=
  if replaced.stop ≤ n then n - replaced.stop + (replaced.start + size) else n

/-- Where a span is once `size` bytes stand in place of those of another one. -/
def move (replaced : Span) (size : Nat) (span : Span) : Span :=
  ⟨replaced.moved size span.start, replaced.moved size span.stop⟩

variable {replaced : Span} {size n : Nat}

theorem moved_of_lt (h : n < replaced.stop) : replaced.moved size n = n :=
  if_neg (by omega)

theorem moved_add (h : replaced.stop ≤ n) (k : Nat) :
    replaced.moved size (n + k) = replaced.moved size n + k := by
  unfold moved
  rw [if_pos h, if_pos (by omega)]
  omega

/-- A span that the replaced bytes lie in keeps its start. -/
theorem move_around {span : Span} (hstart : span.start < replaced.stop) (hstop : replaced.stop ≤ span.stop) :
    replaced.move size span = ⟨span.start, span.stop - replaced.stop + (replaced.start + size)⟩ := by
  rw [move, moved_of_lt hstart, moved, if_pos hstop]

end Span

namespace Token

/-- The token once `size` bytes stand in place of those of `replaced`. -/
def move (replaced : Span) (size : Nat) (t : Token) : Token :=
  { t with span := replaced.move size t.span, contentSpan := replaced.move size t.contentSpan }

/-! ### Tokens of blocks -/

/-- A span that lies within an occurrence, wherever that stands. -/
def InOccurrence (o : Occurrence) (span : Nat → Span) : Prop :=
  ∃ first last, first ≤ byteSize o.text ∧ last ≤ byteSize o.text ∧
    ∀ start, span start = ⟨start + first, start + last⟩

theorem inOccurrence_trimmedSpan (o : Occurrence) : InOccurrence o (trimmedSpan · o) := by
  have hlast : ∀ start, (trimmedSpan start o).stop =
      start + max (byteSize o.text - (byteSize o.text - byteSize (Text.trimEnd o.text)))
        (byteSize o.text - byteSize (Text.trimStart o.text)) := by
    intro start
    simp only [trimmedSpan]
    omega
  refine ⟨byteSize o.text - byteSize (Text.trimStart o.text), _, by omega, ?_,
    fun start => congrArg (Span.mk _) (hlast start)⟩
  omega

theorem inOccurrence_bodySpan (o : Occurrence) : InOccurrence o (bodySpan · o) := by
  refine ⟨byteSize (o.opener ++ o.blank), byteSize (o.opener ++ o.blank) + byteSize o.body, ?_, ?_,
    fun start => congrArg (Span.mk _) (Nat.add_assoc ..)⟩
  · simp only [Occurrence.text, Text.byteSize_append]
    omega
  · simp only [Occurrence.text, Text.byteSize_append]
    omega

variable {replaced : Span} {size : Nat}

theorem InOccurrence.move_of_before {o : Occurrence} {span : Nat → Span} (h : InOccurrence o span)
    {start : Nat} (hstop : start + byteSize o.text < replaced.stop) :
    replaced.move size (span start) = span start := by
  obtain ⟨first, last, hfirst, hlast, hspan⟩ := h
  rw [hspan, Span.move, Span.moved_of_lt (by simp only; omega), Span.moved_of_lt (by simp only; omega)]

theorem InOccurrence.move_of_behind {o : Occurrence} {span : Nat → Span} (h : InOccurrence o span)
    {start : Nat} (hstart : replaced.stop ≤ start) :
    replaced.move size (span start) = span (replaced.moved size start) := by
  obtain ⟨first, last, -, -, hspan⟩ := h
  rw [hspan, hspan, Span.move, Span.moved_add hstart, Span.moved_add hstart]

variable {stripTabs : Bool} {o : Occurrence} {start : Nat} {token : Token}

/-- Only the spans of a token tell where its block was found. -/
theorem ofBlock_at (h : ofBlock stripTabs (start, o) = .ok token) (n : Nat) :
    ofBlock stripTabs (n, o) = .ok { token with span := trimmedSpan n o, contentSpan := bodySpan n o } := by
  unfold ofBlock ofOccurrence at h ⊢
  simp only at h ⊢
  split at h
  next whole _ =>
    cases h
    rfl
  next => cases h

theorem spans_ofBlock (h : ofBlock stripTabs (start, o) = .ok token) :
    token.span = trimmedSpan start o ∧ token.contentSpan = bodySpan start o :=
  spans_ofOccurrence h

/-- A block that ends in front of the last replaced byte keeps its token. -/
theorem move_of_before (h : ofBlock stripTabs (start, o) = .ok token)
    (hstop : start + byteSize o.text < replaced.stop) : token.move replaced size = token := by
  obtain ⟨hspan, hcontent⟩ := spans_ofBlock h
  unfold move
  rw [hspan, hcontent, (inOccurrence_trimmedSpan o).move_of_before hstop,
    (inOccurrence_bodySpan o).move_of_before hstop, ← hspan, ← hcontent]

/-- A block behind the replaced bytes has its token moved. -/
theorem ofBlock_moved (h : ofBlock stripTabs (start, o) = .ok token) (hstart : replaced.stop ≤ start) :
    ofBlock stripTabs (replaced.moved size start, o) = .ok (token.move replaced size) := by
  obtain ⟨hspan, hcontent⟩ := spans_ofBlock h
  rw [ofBlock_at h, move, hspan, hcontent, (inOccurrence_trimmedSpan o).move_of_behind hstart,
    (inOccurrence_bodySpan o).move_of_behind hstart]

/-- A block begins with no white space, and its token ends where its closer does. -/
theorem trimmedSpan_block {rest : Text} (h : Block.reading.Stands o rest) (start : Nat) :
    trimmedSpan start o = ⟨start, start + byteSize (o.opener ++ o.blank ++ o.body) +
      byteSize (Text.trimEnd o.closer)⟩ := by
  obtain ⟨markers, hm, hopener⟩ := h.opener
  have hm : Block.Opening markers := hm
  have hstart : Text.trimStart o.text = o.text := by
    have htext : o.text = markers ++
        '@' :: (o.name ++ (Block.reading.colons ++ (o.blank ++ (o.body ++ o.closer)))) := by
      rw [Occurrence.text, hopener]
      simp
    rw [htext, Text.trimStart_append (Text.trimStart_at _), hm.trimStart_eq]
  have hend : Text.trimEnd o.text = o.opener ++ o.blank ++ o.body ++ Text.trimEnd o.closer := by
    refine Text.trimEnd_of_ne_nil (fun hnil => ?_) _
    exact (Text.trimEnd_eq_nil_iff.mp hnil).notMem (c := '@') (by decide) (Block.at_mem_closer h)
  have hsize : byteSize o.text = byteSize (o.opener ++ o.blank ++ o.body) + byteSize o.closer := by
    rw [Occurrence.text, Text.byteSize_append]
  have hle : byteSize (Text.trimEnd o.closer) ≤ byteSize o.closer := by
    obtain ⟨b, -, hb⟩ := Text.exists_blank_trimEnd o.closer
    have hsplit := congrArg byteSize hb
    rw [Text.byteSize_append] at hsplit
    omega
  simp only [trimmedSpan, hstart, hend, hsize, Text.byteSize_append, Span.mk.injEq]
  omega

/-! ### The block's own token -/

/-- `own` is what `token` becomes where `body` takes the place of its content: the content
apart, and the text that is matched, only the spans change. -/
structure Edited (stripTabs : Bool) (edited body : Text) (token own : Token) : Prop where
  form : own.form = .block
  name : own.name = token.name
  content : own.content = body
  start : own.span.start = token.span.start
  span : own.span = token.contentSpan.move (byteSize body) token.span
  contentSpan : own.contentSpan = token.contentSpan.move (byteSize body) token.contentSpan
  matched : ∃ covered, Text.slice? edited own.span = some covered ∧
    own.matched = if stripTabs = true then Text.withoutTabs covered else covered

theorem exists_own {front rest body : Text} (h : Block.reading.Stands o rest)
    (hok : ofBlock stripTabs (byteSize front, o) = .ok token) (hbody : Block.Tight body) (htab : '\t' ∉ body) :
    ∃ own, ofBlock stripTabs (byteSize front, o.withBody body) = .ok own ∧
      Edited stripTabs (front ++ ((o.withBody body).text ++ rest)) body token own := by
  have hstands := Block.stands_withBody h hbody
  obtain ⟨own, hown, hdirective⟩ : ∃ own, ofBlock stripTabs (byteSize front, o.withBody body) = .ok own ∧
      own.directive = (.block, o.name, body) := ofBlock_tight hstands hbody htab stripTabs
  have hlocated : ∀ x : Occurrence, Located (front ++ (x.text ++ rest)) (byteSize front) x :=
    fun x => ⟨front, rest, (List.append_assoc ..).symm, rfl⟩
  have hold := rereads_of_ofBlock h (hlocated o) hok
  have hnew := rereads_of_ofBlock hstands (hlocated _) hown
  obtain ⟨hspan, hcontent⟩ := spans_ofBlock hok
  obtain ⟨hspan', hcontent'⟩ := spans_ofBlock hown
  have hpos := Text.byteSize_pos h.body_ne_nil
  refine ⟨own, hown, hnew.form, hnew.name.trans hold.name.symm, ?_, ?_, ?_, ?_, ?_⟩
  · exact congrArg (fun d => d.2.2) hdirective
  · rw [hspan', hspan, trimmedSpan_block h, trimmedSpan_block hstands]
  · rw [hspan', hspan, hcontent, trimmedSpan_block h, trimmedSpan_block hstands, Span.move_around]
    all_goals simp only [bodySpan, Occurrence.withBody, Text.byteSize_append, Span.mk.injEq, true_and]
    all_goals omega
  · rw [hcontent', hcontent, Span.move_around]
    all_goals simp only [bodySpan, Occurrence.withBody, Span.mk.injEq, true_and]
    all_goals omega
  · obtain ⟨covered, hslice, -, hmatched⟩ := hnew.matched
    exact ⟨covered, hslice, by simpa using hmatched⟩

/-! ### The edited text -/

/-- What is located behind the replaced bytes is located further on or back. -/
theorem go_moved {position : Nat} (h : replaced.stop ≤ position) (found : List (Text × Occurrence)) :
    Scan.located.go (replaced.moved size position) found =
      (Scan.located.go position found).map fun pair => (replaced.moved size pair.1, pair.2) := by
  induction found generalizing position with
  | nil => rfl
  | cons pair found ih =>
    obtain ⟨gap, o⟩ := pair
    have hle : replaced.stop ≤ position + byteSize gap + byteSize o.text := by omega
    have hrest := ih hle
    rw [Span.moved_add (by omega), Span.moved_add h] at hrest
    simp only [Scan.located.go, List.map_cons, hrest, Span.moved_add h]

/-- The end of a block moves with its body. -/
theorem moved_stop (body : Text) : start + byteSize (o.withBody body).text =
    (bodySpan start o).moved (byteSize body) (start + byteSize o.text) := by
  unfold Span.moved
  simp only [bodySpan, Occurrence.text, Occurrence.withBody, Text.byteSize_append]
  rw [if_pos (by omega)]
  omega

/-- Where a block is found in a text, it is found with its other body in the edited text, between
what was found in front of it and, moved, what was found behind it. -/
theorem exists_located_edited {text body : Text} (h : (start, o) ∈ (Scan.blocks text).located)
    (hbody : Block.Tight body) :
    ∃ front rest before after, text = front ++ (o.text ++ rest) ∧ start = byteSize front ∧
      Block.reading.Stands o rest ∧ (Scan.blocks text).located = before ++ (start, o) :: after ∧
      (Scan.blocks (front ++ ((o.withBody body).text ++ rest))).located = before ++ (start, o.withBody body) ::
        after.map (fun pair => ((bodySpan start o).moved (byteSize body) pair.1, pair.2)) ∧
      (∀ pair ∈ before, pair.1 + byteSize pair.2.text ≤ start) ∧
      ∀ pair ∈ after, (bodySpan start o).stop ≤ pair.1 := by
  obtain ⟨front, rest, htext, hstart, hstands, hreaches⟩ := (Scan.mem_located_iff (r := Block.reading)).mp h
  have htext : text = front ++ (o.text ++ rest) := htext
  have hstart : start = byteSize front := hstart
  obtain ⟨front', htext', hall⟩ := Block.located_replace hstands hbody hreaches rfl
  obtain rfl := List.append_cancel_right (htext'.symm.trans htext)
  obtain ⟨before, hold, hnew, hends⟩ := hall 0
  rw [Nat.zero_add, ← hstart] at hold hnew hends
  have hstop : (bodySpan start o).stop ≤ start + byteSize o.text := by
    simp only [bodySpan, Occurrence.text, Text.byteSize_append]
    omega
  refine ⟨front', rest, before, _, htext, hstart, hstands, hold, hnew.trans ?_, hends, fun pair hmem => ?_⟩
  · rw [moved_stop, go_moved hstop]
  · obtain ⟨b, t, -, hpair, -⟩ := (Scan.mem_go_iff (r := Block.reading)).mp hmem
    have hpair : pair.1 = start + byteSize o.text + byteSize b := hpair
    omega

/-! ### The tokens of the edited text -/

/-- The blocks among the tokens are those of `before`, `token` and those of `after`. -/
structure BlocksAround (tokens before : List Token) (token : Token) (after : List Token) : Prop where
  split : ∃ lines, tokens = before ++ token :: (after ++ lines) ∧ ∀ t ∈ lines, t.form = .line
  blocks : ∀ t ∈ before ++ token :: after, t.form = .block
  earlier : ∀ t ∈ before, t.span.start < token.span.start

/-- Blocks are read again as they are found, the lines behind them. -/
theorem blocksAround_of_located {s : Text} {before after : List (Nat × Occurrence)} {first last : List Token}
    (hlocated : (Scan.blocks s).located = before ++ (start, o) :: after)
    (hends : ∀ pair ∈ before, pair.1 + byteSize pair.2.text ≤ start)
    (hfirst : List.Forall₂ (fun pair token => ofBlock stripTabs pair = .ok token) before first)
    (hok : ofBlock stripTabs (start, o) = .ok token)
    (hlast : List.Forall₂ (fun pair token => ofBlock stripTabs pair = .ok token) after last) :
    ∃ tokens, ofText stripTabs s = .ok tokens ∧ BlocksAround tokens first token last := by
  have hblocks : List.Forall₂ (fun pair token => ofBlock stripTabs pair = .ok token)
      (Scan.blocks s).located (first ++ token :: last) := by
    rw [hlocated]
    exact List.rel_append hfirst (.cons hok hlast)
  obtain ⟨lines, hlines, -⟩ := exists_lines stripTabs s
  have hlines := mapM_eq_ok_iff.mp hlines
  have hstart : ∀ {n : Nat} {x : Occurrence} {t : Token}, (n, x) ∈ (Scan.blocks s).located →
      ofBlock stripTabs (n, x) = .ok t → t.span.start = n ∧ x.text ≠ [] := by
    intro n x t hmem ht
    obtain ⟨-, rest, hstands⟩ := exists_stands (r := Block.reading) hmem
    rw [(spans_ofBlock ht).1, trimmedSpan_block hstands]
    exact ⟨rfl, hstands.text_ne_nil⟩
  refine ⟨_, ofText_eq_ok_iff.mpr ⟨_, lines, rfl, hblocks, hlines⟩,
    ⟨lines, by simp, form_of_lines hlines⟩, form_of_blocks hblocks, fun t ht => ?_⟩
  obtain ⟨⟨n, x⟩, hmem, hpair⟩ := exists_of_forall₂ hfirst ht
  obtain ⟨hone, hne⟩ := hstart (by rw [hlocated]; exact List.mem_append_left _ hmem) hpair
  obtain ⟨htwo, -⟩ := hstart (by rw [hlocated]; simp) hok
  have hend : n + byteSize x.text ≤ start := hends _ hmem
  have hpos := Text.byteSize_pos hne
  omega

/-- The tokens of a text in which a block has another content are those of the text, moved,
but for the block's own. -/
theorem exists_edited {text body : Text} {tokens : List Token} (h : ofText stripTabs text = .ok tokens)
    (hmem : token ∈ tokens) (hform : token.form = .block) (hbody : Block.Tight body) (htab : '\t' ∉ body) :
    ∃ front old back before after own edited, text = front ++ old ++ back ∧
      token.contentSpan = ⟨byteSize front, byteSize front + byteSize old⟩ ∧
      BlocksAround tokens before token after ∧
      ofText stripTabs (front ++ body ++ back) = .ok edited ∧
      BlocksAround edited (before.map (move token.contentSpan (byteSize body))) own
        (after.map (move token.contentSpan (byteSize body))) ∧
      Edited stripTabs (front ++ body ++ back) body token own := by
  obtain ⟨blocks, lines, rfl, hblocks, hlines⟩ := ofText_eq_ok_iff.mp h
  have hmem : token ∈ blocks := by
    refine (List.mem_append.mp hmem).resolve_right fun hline => ?_
    rw [form_of_lines hlines token hline] at hform
    cases hform
  obtain ⟨⟨start, o⟩, hfound, hok⟩ := exists_of_forall₂ hblocks hmem
  obtain ⟨front, rest, before, after, htext, rfl, hstands, hold, hnew, hends, hbehind⟩ :=
    exists_located_edited hfound hbody
  obtain ⟨own, hown, hedited⟩ := exists_own hstands hok hbody htab
  obtain ⟨-, hcontent⟩ := spans_ofBlock hok
  -- the tokens of the text, taken apart at the block
  rw [hold] at hblocks
  obtain ⟨first, others, rfl, hfirst, hothers⟩ := exists_append_of_forall₂ hblocks
  obtain ⟨token', last, htoken, hlast, rfl⟩ := List.forall₂_cons_left_iff.mp hothers
  obtain rfl : token' = token := Except.ok.inj (htoken.symm.trans hok)
  obtain ⟨tokens, htokens, haround⟩ := blocksAround_of_located hold hends hfirst hok hlast
  obtain rfl := Except.ok.inj (h.symm.trans htokens)
  -- and those of the edited text
  have hpos := Text.byteSize_pos hstands.body_ne_nil
  have hfirst' : List.Forall₂ (fun pair token => ofBlock stripTabs pair = .ok token) before
      (first.map (move token'.contentSpan (byteSize body))) := by
    rw [List.forall₂_map_right_iff]
    refine ((List.forall₂_and_left _ _).mpr ⟨hends, hfirst⟩).imp fun pair t ⟨hend, ht⟩ => ?_
    rw [move_of_before ht, ht]
    rw [hcontent, bodySpan]
    simp only
    omega
  have hlast' : List.Forall₂ (fun pair token => ofBlock stripTabs pair = .ok token)
      (after.map fun pair => ((bodySpan (byteSize front) o).moved (byteSize body) pair.1, pair.2))
      (last.map (move token'.contentSpan (byteSize body))) := by
    rw [List.forall₂_map_left_iff, List.forall₂_map_right_iff, hcontent]
    exact ((List.forall₂_and_left _ _).mpr ⟨hbehind, hlast⟩).imp
      fun pair t ⟨hend, ht⟩ => ofBlock_moved ht hend
  obtain ⟨edited, hok', haround'⟩ := blocksAround_of_located hnew hends hfirst' hown hlast'
  have hedit : (front ++ o.opener ++ o.blank) ++ body ++ (o.closer ++ rest) =
      front ++ ((o.withBody body).text ++ rest) := by
    simp [Occurrence.text, Occurrence.withBody]
  refine ⟨front ++ o.opener ++ o.blank, o.body, o.closer ++ rest, first, last, own, edited, ?_, ?_, haround,
    hedit ▸ hok', haround', hedit ▸ hedited⟩
  · rw [htext]
    simp [Occurrence.text]
  · rw [hcontent, bodySpan]
    simp only [Text.byteSize_append, Nat.add_assoc]

end Token

/-! ### The directives of the edited text -/

namespace Directive

variable {σ : Type} {registry : Registry σ} {stripTabs : Bool} {text body : Text}

/-- Another text is put in place of the bytes of the content. -/
theorem consume_change {d : Directive σ} {front old back : Text} (hraw : d.raw = front ++ old ++ back)
    (hspan : d.token.contentSpan = ⟨byteSize front, byteSize front + byteSize old⟩) (body : Text) :
    (d.change (.text body)).consume = front ++ body ++ back := by
  show Text.replaced d.raw d.token.contentSpan d.token.content body = _
  rw [Text.replaced, hraw, hspan, Text.splice?_append]
  rfl

/-- Of the directives of a command, a block is the first that starts where it does. -/
theorem startingAt_entry {before : List (Directive σ)} {d : Directive σ} (after : List (Directive σ))
    (hearlier : ∀ x ∈ before, x.token.span.start < d.token.span.start) :
    ∃ entry, (Group.ofList (before ++ d :: after)).get? d.command = some entry ∧
      entry.startingAt d.token.span.start = d := by
  have hmem : d ∈ before ++ d :: after := by simp
  obtain ⟨entry, hget, hlist⟩ := Group.exists_entry hmem
  refine ⟨entry, hget, ?_⟩
  have hnone : (before.filter (·.command = d.command)).find?
      (·.token.span.start == d.token.span.start) = none := by
    rw [List.find?_eq_none]
    intro x hx
    have hless := hearlier x (List.mem_filter.mp hx).1
    simp only [beq_iff_eq]
    omega
  rw [Entry.startingAt, hlist, List.filter_append, List.find?_append, hnone, Option.none_or,
    List.filter_cons_of_pos (by simp), List.find?_cons_of_pos (by simp)]
  rfl

/-- With directives of the staged command in the edited text, one of them is rebuilt. -/
theorem rebuild_of_parse {d : Directive σ} {e : Effects σ} {ds : List (Directive σ)} {entry : Entry σ}
    (hparse : (parse registry d.stripTabs d.consume e).1 = .ok ds)
    (hget : (Group.ofList ds).get? ((d.staged.map (·.command)).getD d.command) = some entry) :
    (rebuild registry d e).1 = .ok (some
      { entry.startingAt d.token.span.start with
        parameter := (d.staged.bind (·.parameter)).getD (entry.startingAt d.token.span.start).parameter }) := by
  unfold rebuild
  rw [Act.bind_apply, hparse]
  simp only [hget]
  rfl

/-- A change of a block's content is found again in the edited text. -/
theorem rebuild_change (registry : Registry σ) {d : Directive σ} {edited before after : List Token} {own : Token}
    (hedited : Token.ofText d.stripTabs (d.change (.text body)).consume = .ok edited)
    (haround : Token.BlocksAround edited before own after) (hname : own.name = d.token.name)
    (hstart : own.span.start = d.token.span.start) (e : Effects σ) :
    (rebuild registry (d.change (.text body)) e).1 = .ok (some
      { bound registry d.stripTabs (d.change (.text body)).consume own with parameter := .text body }) := by
  obtain ⟨lines, rfl, -⟩ := haround.split
  have hearlier : ∀ x ∈ before.map (bound registry d.stripTabs (d.change (.text body)).consume),
      x.token.span.start < own.span.start := by
    intro x hx
    obtain ⟨t, ht, rfl⟩ := List.mem_map.mp hx
    exact haround.earlier t ht
  obtain ⟨entry, hget, hfound⟩ :=
    startingAt_entry (d := bound registry d.stripTabs (d.change (.text body)).consume own)
      ((after ++ lines).map (bound registry d.stripTabs (d.change (.text body)).consume)) hearlier
  have hcommand : (bound registry d.stripTabs (d.change (.text body)).consume own).command = d.command :=
    congrArg camelCase hname
  rw [hcommand] at hget
  have hparse : (parse registry d.stripTabs (d.change (.text body)).consume e).1 = .ok _ :=
    parse_eq_ok_iff.mpr ⟨_, hedited, rfl⟩
  rw [List.map_append, List.map_cons] at hparse
  have hrebuild := rebuild_of_parse (d := d.change (.text body)) hparse hget
  have hfound : entry.startingAt (d.change (.text body)).token.span.start =
      bound registry d.stripTabs (d.change (.text body)).consume own := by
    rw [← hfound]
    exact congrArg entry.startingAt hstart.symm
  rw [hfound] at hrebuild
  exact hrebuild

/-- **Editing a block is local.** Where a text is parsed, another text may be put in place of
the content of any of its blocks: only these bytes of the text change, it is parsed
again, its blocks are those of the text, moved, but for the one that has the other
content, and this one is rebuilt with it. -/
theorem change_text {e : Effects σ} {ds : List (Directive σ)} {d : Directive σ}
    (h : (parse registry stripTabs text e).1 = .ok ds) (hmem : d ∈ ds) (hform : d.token.form = .block)
    (hbody : Block.Tight body) (htab : '\t' ∉ body) (again : Registry σ) (e' : Effects σ) :
    ∃ front old back before after own ds', text = front ++ old ++ back ∧
      d.token.contentSpan = ⟨byteSize front, byteSize front + byteSize old⟩ ∧
      (d.change (.text body)).consume = front ++ body ++ back ∧
      (parse again stripTabs (front ++ body ++ back) e').1 = .ok ds' ∧
      Token.BlocksAround (ds.map (·.token)) before d.token after ∧
      Token.BlocksAround (ds'.map (·.token)) (before.map (Token.move d.token.contentSpan (byteSize body))) own
        (after.map (Token.move d.token.contentSpan (byteSize body))) ∧
      Token.Edited stripTabs (front ++ body ++ back) body d.token own ∧
      ∃ r, (rebuild again (d.change (.text body)) e').1 = .ok (some r) ∧ r.raw = front ++ body ++ back ∧
        r.token = own ∧ r.token.span.start = d.token.span.start ∧ r.command = d.command ∧
        r.parameter = .text body := by
  obtain ⟨tokens, htokens, rfl⟩ := parse_eq_ok_iff.mp h
  obtain ⟨token, htoken, rfl⟩ := List.mem_map.mp hmem
  obtain ⟨front, old, back, before, after, own, edited, htext, hspan, haround, hok, haround', hedited⟩ :=
    Token.exists_edited htokens htoken hform hbody htab
  have hconsume := consume_change (d := bound registry stripTabs text token) htext hspan body
  have hmap : ∀ (r : Registry σ) raw (ts : List Token),
      (ts.map (bound r stripTabs raw)).map (·.token) = ts := by
    intro r raw ts
    rw [List.map_map]
    exact List.map_id ts
  have hrebuild := rebuild_change again (d := bound registry stripTabs text token)
    (by rw [hconsume]; exact hok) haround' hedited.name hedited.start e'
  rw [hconsume] at hrebuild
  refine ⟨front, old, back, before, after, own, _, htext, hspan, hconsume,
    parse_eq_ok_iff.mpr ⟨edited, hok, rfl⟩, ?_, ?_, hedited, _, hrebuild, rfl, rfl, hedited.start, ?_, rfl⟩
  · rw [hmap]
    exact haround
  · rw [hmap]
    exact haround'
  · exact congrArg camelCase hedited.name

/-- A block with the given body. -/
def blockOf (body : Text) : Text :=
  ['@', 'a', 'a', ':', ' '] ++ body ++ [' ', '@', 'e', 'n', 'd', '-', 'a', 'a']

/-- The token of such a block, for a body of one character. -/
def tokenOf (start : Nat) (c : Char) : Token :=
  ⟨blockOf [c], ['a', 'a'], [c], .block, ⟨start, start + 14⟩, ⟨start + 5, start + 6⟩⟩

/-- Of two blocks of one command the second is changed, and it is rebuilt. -/
theorem change_text_second : ∃ r : Directive Unit,
    (rebuild ∅ ((bound ∅ true (blockOf ['x'] ++ ' ' :: blockOf ['y']) (tokenOf 15 'y')).change
      (.text ['z', 'z'])) ⟨(), []⟩).1 = .ok (some r) ∧
    r.raw = blockOf ['x'] ++ ' ' :: blockOf ['z', 'z'] ∧ r.token.span.start = 15 ∧
    r.parameter = .text ['z', 'z'] := by
  have htokens : Token.ofText true (blockOf ['x'] ++ ' ' :: blockOf ['y']) =
      .ok [tokenOf 0 'x', tokenOf 15 'y'] := by decide +kernel
  have hparse :
      (parse (∅ : Registry Unit) true (blockOf ['x'] ++ ' ' :: blockOf ['y']) ⟨(), []⟩).1 = .ok _ :=
    parse_eq_ok_iff.mpr ⟨_, htokens, rfl⟩
  have htight : Block.Tight ['z', 'z'] :=
    ⟨⟨by decide, by decide⟩, by decide, by decide⟩
  obtain ⟨front, old, back, before, after, own, ds, -, -, hconsume, -, -, -, -, r, hrebuild, hraw, -, hstart, -,
    hparameter⟩ := change_text hparse (List.mem_map_of_mem (List.mem_cons_of_mem _ (List.mem_cons_self ..))) rfl
      htight (by decide) ∅ ⟨(), []⟩
  refine ⟨r, hrebuild, ?_, hstart, hparameter⟩
  rw [hraw, ← hconsume]
  decide

end Directive
end Directives
