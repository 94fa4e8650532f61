import Directives.Strip
import Directives.Proofs.FirstToken
import Directives.Proofs.Parsing
import Directives.Proofs.Placement

/-! Stripping comes to an end.

A round cuts the first directive out of the text, and no directive takes fewer than seven
bytes (`Whole.seven_le_byteSize`), so that there are no more rounds than sevens of bytes.
What joins up around a cut may be a directive in its turn; where the rounds end there is
none (`Strip.ofText_removes_all`). Where a directive stands does not depend on whether
blocks are read without their tabs, so neither does what is cut out
(`Strip.ofText_tabs`). -/
namespace Directives

open Text (byteSize)

/-! ### How small a directive is -/

namespace Text

theorem length_le_byteSize (s : Text) : s.length ≤ byteSize s := by
  induction s with
  | nil => exact le_rfl
  | cons c s ih =>
    have hpos := Char.utf8Size_pos c
    rw [List.length_cons, byteSize_cons]
    omega

end Text

theorem two_le_length_of_isName {name : Text} (h : isName name = true) : 2 ≤ name.length := by
  match name, h with
  | [], h => exact absurd h (by decide)
  | [c], h =>
    by_cases hc : c = '-'
    · rw [hc] at h
      exact absurd h (by decide)
    · simp [isName, Text.splitOn, hc, Name.isSegment] at h
  | _ :: _ :: _, _ => simp

/-- Behind an `@`, a name of two characters and a colon a block has an inside and a closing word. -/
theorem Block.seven_le_of_match? {s name body : Text} (h : match? s = some (name, body)) :
    7 ≤ byteSize s := by
  obtain ⟨inside, -, hname, markers, word, after, -, hw, -, rfl⟩ := exists_shaped h
  have hname := two_le_length_of_isName hname
  have hword : 5 ≤ byteSize word := by
    cases hw <;> rw [Text.byteSize_append] <;> exact Nat.le_add_right 5 _
  have hbytes := Text.length_le_byteSize name
  simp only [Text.byteSize_append, Text.byteSize_cons, show '@'.utf8Size = 1 from rfl,
    show ':'.utf8Size = 1 from rfl]
  omega

/-- Behind an `@`, a name of two characters and two colons a line directive has a body and a `;`. -/
theorem Line.seven_le_of_match? {s name body : Text} (h : match? s = some (name, body)) :
    7 ≤ byteSize s := by
  obtain ⟨inside, hinside, hname, markers, after, -, -, rfl⟩ := exists_shaped h
  have hname := two_le_length_of_isName hname
  have hbytes := Text.length_le_byteSize name
  have hbody := Text.byteSize_pos hinside
  simp only [Text.byteSize_append, Text.byteSize_cons, show '@'.utf8Size = 1 from rfl,
    show ':'.utf8Size = 1 from rfl, show ';'.utf8Size = 1 from rfl]
  omega

/-- No directive is shorter than `@ab::x;`. -/
theorem Whole.seven_le_byteSize {s : Text} {whole : Whole} (h : ofText? s = some whole) :
    7 ≤ byteSize s := by
  unfold ofText? at h
  split at h
  next name body hblock => exact Block.seven_le_of_match? hblock
  next =>
    obtain ⟨⟨name, body⟩, hline, -⟩ := Option.map_eq_some_iff.mp h
    exact Line.seven_le_of_match? hline

namespace Token

variable {stripTabs : Bool} {s : Text} {tokens : List Token} {token : Token}

/-- What a token matched is a directive. -/
theorem exists_whole (h : ofText stripTabs s = .ok tokens) (hmem : token ∈ tokens) :
    ∃ whole, Whole.ofText? token.matched = some whole := by
  obtain ⟨found, -, hok⟩ := exists_found h hmem
  cases hform : token.form <;> rw [hform] at hok <;> exact whole_of_ofOccurrence hok

theorem Covers.seven_le {front covered back : Text} (hcovers : Covers s token front covered back)
    (h : ofText stripTabs s = .ok tokens) (hmem : token ∈ tokens) : 7 ≤ byteSize covered := by
  obtain ⟨whole, hwhole⟩ := exists_whole h hmem
  have hseven := Whole.seven_le_byteSize hwhole
  rcases hcovers.matched with hmatched | hmatched <;> rw [hmatched] at hseven
  · exact hseven
  · exact hseven.trans (Text.byteSize_le_of_sublist List.filter_sublist)

/-- Where the tokens stand is where the scans found them, with the tabs or without. -/
theorem map_span_of_ofText (h : ofText stripTabs s = .ok tokens) :
    tokens.map (·.span) = ((Scan.blocks s).located ++ (Scan.lines s).located).map
      fun found => trimmedSpan found.1 found.2 := by
  obtain ⟨blocks, lines, rfl, hblocks, hlines⟩ := ofText_eq_ok_iff.mp h
  have hspan : ∀ (written : Text) (found : Nat × Occurrence) (token : Token),
      ofOccurrence written found.1 found.2 = .ok token → trimmedSpan found.1 found.2 = token.span :=
    fun _ _ _ hok => (spans_ofOccurrence hok).1.symm
  rw [List.map_append, List.map_append, map_eq_of_forall₂ hblocks fun found => hspan _ found,
    map_eq_of_forall₂ hlines fun found => hspan _ found]

end Token

/-! ### Rounds -/

namespace Strip

variable {stripTabs : Bool} {s t u : Text} {n : Nat}

/-- A round cuts the first directive of `s` out and leaves `t`. -/
def Round (stripTabs : Bool) (s t : Text) : Prop :=
  ∃ token others, Token.ofText stripTabs s = .ok (token :: others) ∧ token.replaceOccurrence s [] = t

/-- `n` rounds lead from `s` to `t`. -/
inductive Removes (stripTabs : Bool) : Nat → Text → Text → Prop where
  | none {s : Text} : Removes stripTabs 0 s s
  | next {s t u : Text} {n : Nat} : Round stripTabs s t → Removes stripTabs n t u →
      Removes stripTabs (n + 1) s u

/-- `n` pieces of at least `least` bytes are cut out of `s`, one after the other, and leave `t`. -/
inductive Cuts (least : Nat) : Nat → Text → Text → Prop where
  | none {s : Text} : Cuts least 0 s s
  | cut {front piece back t : Text} {n : Nat} : least ≤ byteSize piece →
      Cuts least n (front ++ back) t → Cuts least (n + 1) (front ++ piece ++ back) t

theorem Cuts.sublist {least : Nat} (h : Cuts least n s t) : t.Sublist s := by
  induction h with
  | none => exact List.Sublist.refl _
  | cut _ _ ih => exact ih.trans ((List.sublist_append_left ..).append_right _)

theorem Cuts.byteSize_le {least : Nat} (h : Cuts least n s t) :
    least * n + byteSize t ≤ byteSize s := by
  induction h with
  | none => omega
  | cut hleast _ ih =>
    rw [Text.byteSize_append, Text.byteSize_append, Nat.mul_succ]
    rw [Text.byteSize_append] at ih
    omega

/-- A round cuts out what its token covers. -/
theorem Round.cut (h : Round stripTabs s t) :
    ∃ front piece back, s = front ++ piece ++ back ∧ t = front ++ back ∧ 7 ≤ byteSize piece := by
  obtain ⟨token, others, hok, rfl⟩ := h
  obtain ⟨front, covered, back, hcovers⟩ := Token.exists_covers hok (List.mem_cons_self ..)
  refine ⟨front, covered, back, hcovers.text_eq, ?_, hcovers.seven_le hok (List.mem_cons_self ..)⟩
  rw [hcovers.replaceOccurrence, List.append_nil]

theorem Round.length_lt (h : Round stripTabs s t) : t.length < s.length := by
  obtain ⟨front, piece, back, rfl, rfl, hseven⟩ := h.cut
  have hne : piece ≠ [] := by
    rintro rfl
    exact absurd hseven (by decide)
  have hpos := List.length_pos_iff.mpr hne
  simp only [List.length_append]
  omega

theorem Round.unique (h : Round stripTabs s t) (h' : Round stripTabs s u) : t = u := by
  obtain ⟨token, others, hok, rfl⟩ := h
  obtain ⟨token', others', hok', rfl⟩ := h'
  cases Except.ok.inj (hok.symm.trans hok')
  rfl

theorem Removes.cuts (h : Removes stripTabs n s t) : Cuts 7 n s t := by
  induction h with
  | none => exact .none
  | next hround _ ih =>
    obtain ⟨front, piece, back, rfl, rfl, hseven⟩ := hround.cut
    exact .cut hseven ih

/-- A text fails to parse, has no directive, or goes through a round. -/
@[elab_as_elim]
theorem induct (stripTabs : Bool) {motive : Text → Prop}
    (failed : ∀ s error, Token.ofText stripTabs s = .error error → motive s)
    (done : ∀ s, Token.ofText stripTabs s = .ok [] → motive s)
    (next : ∀ s t, Round stripTabs s t → motive t → motive s) (s : Text) : motive s := by
  induction hlength : s.length using Nat.strong_induction_on generalizing s with
  | _ length ih =>
    cases hparse : Token.ofText stripTabs s with
    | error error => exact failed s error hparse
    | ok tokens =>
      cases tokens with
      | nil => exact done s hparse
      | cons token others =>
        have hround : Round stripTabs s (token.replaceOccurrence s []) := ⟨token, others, hparse, rfl⟩
        exact next s _ hround (ih _ (hlength ▸ hround.length_lt) _ rfl)

/-! ### The loop -/

/-- One more directive was removed. -/
def Stripped.more (stripped : Stripped) : Stripped :=
  { stripped with removed := stripped.removed + 1 }

theorem rounds_of_error {error : GrammarError} (h : Token.ofText stripTabs s = .error error) :
    rounds stripTabs (n + 1) s = .error error := by
  rw [rounds, h]
  rfl

theorem rounds_of_nil (h : Token.ofText stripTabs s = .ok []) : rounds stripTabs (n + 1) s = .ok ⟨s, 0⟩ := by
  rw [rounds, h]
  rfl

theorem rounds_of_round (h : Round stripTabs s t) :
    rounds stripTabs (n + 1) s = (rounds stripTabs n t).map Stripped.more := by
  obtain ⟨token, others, hok, rfl⟩ := h
  rw [rounds, hok]
  rfl

/-- As many rounds as there are characters, and one more to see that no directive is left, are enough. -/
theorem rounds_of_le {m : Nat} (hn : s.length ≤ n) (hm : s.length ≤ m) :
    rounds stripTabs (n + 1) s = rounds stripTabs (m + 1) s := by
  induction s using induct stripTabs generalizing n m with
  | failed s error h => rw [rounds_of_error h, rounds_of_error h]
  | done s h => rw [rounds_of_nil h, rounds_of_nil h]
  | next s t h ih =>
    have hlength := h.length_lt
    obtain ⟨n, rfl⟩ := Nat.exists_eq_add_one_of_ne_zero (show n ≠ 0 by omega)
    obtain ⟨m, rfl⟩ := Nat.exists_eq_add_one_of_ne_zero (show m ≠ 0 by omega)
    have hrest : rounds stripTabs (n + 1) t = rounds stripTabs (m + 1) t := ih (by omega) (by omega)
    rw [rounds_of_round h, rounds_of_round h, hrest]

theorem ofText_of_error {error : GrammarError} (h : Token.ofText stripTabs s = .error error) :
    ofText stripTabs s = .error error :=
  rounds_of_error h

theorem ofText_of_nil (h : Token.ofText stripTabs s = .ok []) : ofText stripTabs s = .ok ⟨s, 0⟩ :=
  rounds_of_nil h

theorem ofText_of_round (h : Round stripTabs s t) :
    ofText stripTabs s = (ofText stripTabs t).map Stripped.more := by
  have hlength := h.length_lt
  obtain ⟨n, hn⟩ := Nat.exists_eq_add_one_of_ne_zero (Nat.ne_zero_of_lt hlength)
  have hrest : rounds stripTabs (n + 1) t = rounds stripTabs (t.length + 1) t :=
    rounds_of_le (by omega) le_rfl
  rw [ofText, rounds_of_round h, hn, hrest, ofText]

theorem not_round_of_error {error : GrammarError} (h : Token.ofText stripTabs s = .error error) :
    ¬ Round stripTabs s t := by
  rintro ⟨token, others, hok, -⟩
  rw [h] at hok
  cases hok

theorem not_round_of_nil (h : Token.ofText stripTabs s = .ok []) : ¬ Round stripTabs s t := by
  rintro ⟨token, others, hok, -⟩
  rw [h] at hok
  cases hok

theorem ofText_of_removes_nil (h : Removes stripTabs n s t) (hparse : Token.ofText stripTabs t = .ok []) :
    ofText stripTabs s = .ok ⟨t, n⟩ := by
  induction h with
  | none => exact ofText_of_nil hparse
  | next hround _ ih =>
    rw [ofText_of_round hround, ih hparse]
    rfl

theorem ofText_of_removes_error {error : GrammarError} (h : Removes stripTabs n s t)
    (hparse : Token.ofText stripTabs t = .error error) : ofText stripTabs s = .error error := by
  induction h with
  | none => exact ofText_of_error hparse
  | next hround _ ih =>
    rw [ofText_of_round hround, ih hparse]
    rfl

/-- The rounds end, at a text without directives or at one that fails to parse. -/
theorem exists_end (stripTabs : Bool) (s : Text) : ∃ n t, Removes stripTabs n s t ∧
    (Token.ofText stripTabs t = .ok [] ∨ ∃ error, Token.ofText stripTabs t = .error error) := by
  induction s using induct stripTabs with
  | failed s error h => exact ⟨0, s, .none, .inr ⟨error, h⟩⟩
  | done s h => exact ⟨0, s, .none, .inl h⟩
  | next s t h ih =>
    obtain ⟨n, u, hrest, hend⟩ := ih
    exact ⟨n + 1, u, .next h hrest, hend⟩

/-- What is returned is where the rounds end without a directive. -/
theorem ofText_eq_ok_iff {stripped : Stripped} : ofText stripTabs s = .ok stripped ↔
    Removes stripTabs stripped.removed s stripped.text ∧ Token.ofText stripTabs stripped.text = .ok [] := by
  refine ⟨fun hok => ?_, fun ⟨hremoves, hparse⟩ => ofText_of_removes_nil hremoves hparse⟩
  obtain ⟨n, t, hremoves, hparse | ⟨error, hparse⟩⟩ := exists_end stripTabs s
  · rw [ofText_of_removes_nil hremoves hparse] at hok
    cases hok
    exact ⟨hremoves, hparse⟩
  · rw [ofText_of_removes_error hremoves hparse] at hok
    cases hok

/-- An error is that of parsing the text at which the rounds end. -/
theorem ofText_eq_error_iff {error : GrammarError} : ofText stripTabs s = .error error ↔
    ∃ n t, Removes stripTabs n s t ∧ Token.ofText stripTabs t = .error error := by
  refine ⟨fun herror => ?_, fun ⟨n, t, hremoves, hparse⟩ => ofText_of_removes_error hremoves hparse⟩
  obtain ⟨n, t, hremoves, hparse | ⟨error', hparse⟩⟩ := exists_end stripTabs s
  · rw [ofText_of_removes_nil hremoves hparse] at herror
    cases herror
  · rw [ofText_of_removes_error hremoves hparse] at herror
    cases herror
    exact ⟨n, t, hremoves, hparse⟩

/-! ### What stripping comes to -/

variable {σ : Type}

/-- A round stages the removal of the first directive that is parsed, and carries it out. -/
theorem round_iff (registry : Registry σ) (e : Effects σ) : Round stripTabs s t ↔ ∃ d others,
    (Directive.parse registry stripTabs s e).1 = .ok (d :: others) ∧ d.collapse.consume = t := by
  constructor
  · rintro ⟨token, others, hok, rfl⟩
    exact ⟨_, _, Directive.parse_eq_ok_iff.mpr ⟨_, hok, rfl⟩, rfl⟩
  · rintro ⟨d, others, hok, rfl⟩
    obtain ⟨tokens, htokens, hds⟩ := Directive.parse_eq_ok_iff.mp hok
    obtain ⟨token, rest, rfl, rfl, -⟩ := List.map_eq_cons_iff.mp hds.symm
    exact ⟨token, rest, htokens, rfl⟩

theorem parse_eq_nil_iff {registry : Registry σ} {e : Effects σ} :
    (Directive.parse registry stripTabs s e).1 = .ok [] ↔ Token.ofText stripTabs s = .ok [] := by
  rw [Directive.parse_eq_ok_iff]
  constructor
  · rintro ⟨tokens, htokens, hnil⟩
    rwa [List.map_eq_nil_iff.mp hnil.symm] at htokens
  · exact fun h => ⟨[], h, rfl⟩

/-- **Stripping ends at a text without directives.** A round removes the first directive, at least
seven bytes in one piece. The rounds end, in the loop as without its bound. Where they end no directive
is left, or else parsing fails, and that is the error; stripping what was returned changes nothing. -/
theorem ofText_removes_all (registry : Registry σ) (stripTabs : Bool) (text : Text) (e : Effects σ) :
    (∀ s t, Round stripTabs s t ↔ ∃ d others,
      (Directive.parse registry stripTabs s e).1 = .ok (d :: others) ∧ d.collapse.consume = t) ∧
    (∃ n t, Removes stripTabs n text t ∧ ∀ u, ¬ Round stripTabs t u) ∧
    (∀ n, text.length < n → rounds stripTabs n text = ofText stripTabs text) ∧
    (∀ n t, Removes stripTabs n text t → Cuts 7 n text t ∧ t.Sublist text ∧
      7 * n + byteSize t ≤ byteSize text) ∧
    (∀ stripped, ofText stripTabs text = .ok stripped ↔
      Removes stripTabs stripped.removed text stripped.text ∧
        (Directive.parse registry stripTabs stripped.text e).1 = .ok []) ∧
    (∀ stripped, ofText stripTabs text = .ok stripped →
      ofText stripTabs stripped.text = .ok ⟨stripped.text, 0⟩) ∧
    ((Directive.parse registry stripTabs text e).1 = .ok [] → ofText stripTabs text = .ok ⟨text, 0⟩) ∧
    ∀ error, ofText stripTabs text = .error error ↔
      ∃ n t, Removes stripTabs n text t ∧ (Directive.parse registry stripTabs t e).1 = .error error := by
  simp only [parse_eq_nil_iff, Directive.parse_eq_error_iff]
  refine ⟨fun s t => round_iff registry e, ?_, fun n hn => ?_, fun n t h => ?_,
    fun stripped => ofText_eq_ok_iff, fun stripped h => ?_, ofText_of_nil, fun error => ofText_eq_error_iff⟩
  · obtain ⟨n, t, hremoves, hparse | ⟨error, hparse⟩⟩ := exists_end stripTabs text
    · exact ⟨n, t, hremoves, fun _ => not_round_of_nil hparse⟩
    · exact ⟨n, t, hremoves, fun _ => not_round_of_error hparse⟩
  · obtain ⟨m, rfl⟩ := Nat.exists_eq_add_one_of_ne_zero (Nat.ne_zero_of_lt hn)
    exact rounds_of_le (Nat.le_of_lt_succ hn) le_rfl
  · exact ⟨h.cuts, h.cuts.sublist, h.cuts.byteSize_le⟩
  · exact ofText_of_nil (ofText_eq_ok_iff.mp h).2

/-- Where a directive is cut out its surroundings may join up to another one, `@ab::x;` here. -/
theorem ofText_joined : ofText false "@a@bb::y;b::x;".toList = .ok ⟨[], 2⟩ ∧
    Cuts 7 2 "@a@bb::y;b::x;".toList [] ∧ ofText false [] = .ok ⟨[], 0⟩ := by
  obtain ⟨-, -, -, hcuts, hok, hagain, -⟩ :=
    ofText_removes_all (∅ : Registry Unit) false "@a@bb::y;b::x;".toList ⟨(), []⟩
  have hstripped : ofText false "@a@bb::y;b::x;".toList = .ok ⟨[], 2⟩ := by decide +kernel
  exact ⟨hstripped, (hcuts _ _ ((hok _).mp hstripped).1).1, hagain _ hstripped⟩

/-! ### Blocks without their tabs -/

/-- What a round cuts out is where the scans found it, so that the tabs do not matter to it. -/
theorem Round.withTabs (h : Round true s t) : Round false s t := by
  obtain ⟨token, others, hok, rfl⟩ := h
  obtain ⟨tokens, htokens⟩ := Token.exists_ofText_false s
  have hspans := (Token.map_span_of_ofText htokens).trans (Token.map_span_of_ofText hok).symm
  obtain ⟨token', others', rfl, hspan, -⟩ := List.map_eq_cons_iff.mp hspans
  -- the two tokens may differ in what they matched, but not in what they cover
  obtain ⟨front, covered, back, hcovers⟩ := Token.exists_covers hok (List.mem_cons_self ..)
  refine ⟨token', others', htokens, ?_⟩
  rw [hcovers.replaceOccurrence, Token.replaceOccurrence, Text.replaced, hspan, hcovers.splice?,
    Option.getD_some]

theorem parse_nil_withTabs (h : Token.ofText true s = .ok []) : Token.ofText false s = .ok [] := by
  obtain ⟨tokens, htokens⟩ := Token.exists_ofText_false s
  have hspans := (Token.map_span_of_ofText htokens).trans (Token.map_span_of_ofText h).symm
  rwa [List.map_eq_nil_iff.mp hspans] at htokens

theorem Removes.withTabs (h : Removes true n s t) : Removes false n s t := by
  induction h with
  | none => exact .none
  | next hround _ ih => exact .next hround.withTabs ih

/-- On the way to a text without directives every text that the rounds come by leads there. -/
theorem Removes.onTheWay {m : Nat} {out : Text} (h : Removes true m s out)
    (hparse : Token.ofText true out = .ok []) (hfalse : Removes false n s t) : ∃ k, Removes true k t out := by
  induction h generalizing n with
  | none =>
    cases hfalse with
    | none => exact ⟨0, .none⟩
    | next hround _ => exact absurd hround (not_round_of_nil (parse_nil_withTabs hparse))
  | next hround hrest ih =>
    cases hfalse with
    | none => exact ⟨_, .next hround hrest⟩
    | next hround' hrest' =>
      cases hround'.unique hround.withTabs
      exact ih hparse hrest'

/-- What leads to a text without directives parses. -/
theorem Removes.parses {out : Text} (h : Removes true n s out) (hparse : Token.ofText true out = .ok []) :
    ∃ tokens, Token.ofText true s = .ok tokens := by
  cases h with
  | none => exact ⟨[], hparse⟩
  | next hround _ =>
    obtain ⟨token, others, hok, -⟩ := hround
    exact ⟨_, hok⟩

theorem exists_ofText_false (s : Text) : ∃ stripped, ofText false s = .ok stripped := by
  cases hstripped : ofText false s with
  | ok stripped => exact ⟨stripped, rfl⟩
  | error error =>
    obtain ⟨n, t, -, hparse⟩ := ofText_eq_error_iff.mp hstripped
    obtain ⟨tokens, htokens⟩ := Token.exists_ofText_false t
    rw [htokens] at hparse
    cases hparse

theorem ofText_false_of_ofText_true {stripped : Stripped} (h : ofText true s = .ok stripped) :
    ofText false s = .ok stripped := by
  obtain ⟨hremoves, hparse⟩ := ofText_eq_ok_iff.mp h
  exact ofText_eq_ok_iff.mpr ⟨hremoves.withTabs, parse_nil_withTabs hparse⟩

/-- **The tabs do not change what is removed.** Stripping that reads the blocks with their tabs succeeds;
without them it comes to the same text and count, unless the rounds come by a text with a block that
has nothing but tabs inside, where it fails. -/
theorem ofText_tabs (text : Text) : ∃ stripped, ofText false text = .ok stripped ∧
    (ofText true text = .ok stripped ∨ ∃ error, ofText true text = .error error) ∧
    ((∃ error, ofText true text = .error error) ↔ ∃ n t, Removes false n text t ∧
      ∃ o ∈ (Scan.blocks t).occurrences, o.onlyTabs = true) := by
  obtain ⟨stripped, hstripped⟩ := exists_ofText_false text
  simp only [← Token.exists_error_iff]
  refine ⟨stripped, hstripped, ?_, ?_, ?_⟩
  · cases htrue : ofText true text with
    | error error => exact .inr ⟨error, rfl⟩
    | ok stripped' => exact .inl ((ofText_false_of_ofText_true htrue).symm.trans hstripped)
  · rintro ⟨error, herror⟩
    obtain ⟨n, t, hremoves, hparse⟩ := ofText_eq_error_iff.mp herror
    exact ⟨n, t, hremoves.withTabs, error, hparse⟩
  · rintro ⟨n, t, hfalse, error, herror⟩
    cases htrue : ofText true text with
    | error error => exact ⟨error, rfl⟩
    | ok stripped' =>
      obtain ⟨hremoves, hparse⟩ := ofText_eq_ok_iff.mp htrue
      obtain ⟨k, hrest⟩ := hremoves.onTheWay hparse hfalse
      obtain ⟨tokens, htokens⟩ := hrest.parses hparse
      rw [htokens] at herror
      cases herror

end Strip
end Directives
