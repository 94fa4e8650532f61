import Directives.Proofs.Grammar.Scan

/-! Directives written down, one at a time.

A body that is `Tight` can be told from the white space, the marker and the word
around it, and so a block is read with the body it was written with: by the scan,
whatever follows (`Tight.find_eq`), and by the strict grammar (`Shaped.match?_eq_tight`).
So it is for line directives, where a body is made of units. -/
namespace Directives

open Text (AllBlank)

/-! ### Blocks -/

namespace Block

/-- A body that begins and ends with something else than white space, holds no `@` and
does not end like a marker in front of a closer. -/
structure Tight (body : Text) : Prop where
  firm : Text.Firm body
  at_notMem : '@' ∉ body
  marker : ¬ Marker.lineOpen <:+ body

theorem BeforeWord.first {c : Char} {s : Text} (h : BeforeWord (c :: s)) :
    isBlank c = true ∨ Marker.lineOpen <+: c :: s := by
  obtain ⟨blank, marker, hb, hm, hs⟩ := h
  cases blank with
  | nil =>
    cases hm with
    | none => cases hs
    | some hmem _ =>
      rw [hs, List.mem_singleton.mp hmem]
      exact .inr (List.prefix_append ..)
  | cons d blank =>
    rw [(List.cons.inj hs).1]
    exact .inl (hb d (List.mem_cons_self ..))

/-- No end of a tight body belongs to what stands in front of a closer. -/
theorem Tight.not_beforeWord {b d before : Text} (h : Tight (b ++ d)) (hd : d ≠ [])
    (hbefore : BeforeWord before) : ¬ BeforeWord (d ++ before) := by
  rintro ⟨blank, marker, hblank, hmarker, hsplit⟩
  obtain ⟨e, c, rfl, hc⟩ := h.firm.exists_last_append hd
  have hnot : c ∉ blank := hblank.notMem hc
  rw [List.append_assoc, List.singleton_append] at hsplit
  cases hmarker with
  | none =>
    rw [List.append_nil] at hsplit
    exact hnot (hsplit ▸ by simp)
  | @some m behind hm hbehind =>
    rw [List.mem_singleton.mp hm] at hsplit
    have hmarker : ∃ x, e = blank ++ x ∧ Marker.lineOpen ++ behind = x ++ c :: before := by
      rcases List.append_eq_append_iff.mp hsplit with ⟨x, rfl, hx⟩ | hx
      · cases x with
        | nil => exact ⟨[], by simp, hx.symm⟩
        | cons y x =>
          rw [(List.cons.inj hx).1] at hnot
          simp at hnot
      · exact hx
    -- the last character of the body is one of the marker's three, or white space behind it
    obtain ⟨x, rfl, hx⟩ := hmarker
    have hfirst : ∀ {c s}, before = c :: s → isBlank c = false → Marker.lineOpen <+: c :: s := by
      rintro c s rfl hc
      exact hbefore.first.resolve_left (by simp [hc])
    match x with
    | [] =>
      simp only [Marker.lineOpen, List.cons_append, List.nil_append, List.cons.injEq] at hx
      exact absurd (hfirst hx.2.symm (by decide)) (by simp [Marker.lineOpen])
    | [_] =>
      simp only [Marker.lineOpen, List.cons_append, List.nil_append, List.cons.injEq] at hx
      exact absurd (hfirst hx.2.2.symm (by decide)) (by simp [Marker.lineOpen])
    | [_, _] =>
      simp only [Marker.lineOpen, List.cons_append, List.nil_append, List.cons.injEq] at hx
      obtain ⟨rfl, rfl, rfl, -⟩ := hx
      exact h.marker ⟨b ++ blank, by simp [Marker.lineOpen]⟩
    | _ :: _ :: _ :: x =>
      simp only [Marker.lineOpen, List.cons_append, List.nil_append, List.cons.injEq] at hx
      exact hbehind.notMem hc (hx.2.2.2 ▸ by simp)

/-- A tight body ends in front of the closer that it is written with. -/
theorem Tight.ends {α : Type} {stop : Text → Option α} {body before name word t : Text} {a : α}
    (h : Tight body) (hname : isName name = true) (hbefore : BeforeWord before) (hw : Word name word)
    (hstop : ∀ s a, stop s = some a →
      ∃ before word t, BeforeWord before ∧ Word name word ∧ s = before ++ (word ++ t))
    (ha : stop (before ++ (word ++ t)) = some a) :
    Body.Ends Body.Chars stop body (before ++ (word ++ t)) a := by
  refine ⟨h.firm.ne_nil, trivial, ha, ?_⟩
  rintro b d rfl - - - hd
  cases hs : stop (d ++ (before ++ (word ++ t))) with
  | none => rfl
  | some e =>
    obtain ⟨before', word', t', hbefore', hw', hsplit⟩ := hstop _ e hs
    obtain ⟨w, rfl, -, -⟩ := hw.exists_eq_cons hname
    obtain ⟨w', rfl, -, -⟩ := hw'.exists_eq_cons hname
    have hat : '@' ∉ d ++ before :=
      List.not_mem_append (fun hm => h.at_notMem (List.mem_append_right b hm)) hbefore.notMem.1
    rw [← List.append_assoc] at hsplit
    obtain ⟨hsame, -⟩ := Text.append_cons_inj hat hbefore'.notMem.1 hsplit
    exact absurd (hsame ▸ hbefore') (h.not_beforeWord hd hbefore)

/-- The scan finds the body that was written, and goes on behind the word, markers aside. -/
theorem Tight.find_eq {blank body before name word : Text} (h : Tight body) (hblank : AllBlank blank)
    (hname : isName name = true) (hbefore : BeforeWord before) (hw : Word name word) (t : Text) :
    ∃ rest, Body.find Body.shortest (close? name) (blank ++ (body ++ (before ++ (word ++ t)))) =
      some ⟨blank, body, rest⟩ ∧ Text.fromAt rest = Text.fromAt t := by
  obtain ⟨rest, hrest⟩ := Option.isSome_iff_exists.mp
    (close?_isSome_iff.mpr ⟨before, word, t, hbefore, hw, rfl⟩)
  have hends := h.ends hname hbefore hw (fun s a hs => close?_isSome_iff.mp (by rw [hs]; rfl)) hrest
  refine ⟨rest, Body.find_eq hblank (h.firm.trimStart_append _) hends.shortest_eq, ?_⟩
  obtain ⟨closer, ⟨before', word', after, hbefore', hw', hafter, rfl⟩, hsplit⟩ := close?_eq_some hrest
  obtain ⟨w, rfl, -, hwchars⟩ := hw.exists_eq_cons hname
  obtain ⟨w', rfl, -, hwchars'⟩ := hw'.exists_eq_cons hname
  rw [List.append_assoc before', List.append_assoc before', List.cons_append, List.cons_append,
    List.cons_append] at hsplit
  obtain ⟨-, hbehind⟩ := Text.append_cons_inj hbefore.notMem.1 hbefore'.notMem.1 hsplit
  have hat : ∀ w : Text, (∀ c ∈ w, Name.isChar c = true) → '@' ∉ w :=
    fun w hw hm => absurd (hw '@' hm) (by decide)
  have hfrom := congrArg Text.fromAt hbehind
  rw [Text.fromAt_append (hat w hwchars), List.append_assoc, Text.fromAt_append (hat w' hwchars'),
    Text.fromAt_append hafter.notMem.1] at hfrom
  exact hfrom.symm

/-- The strict grammar finds the body that was written. -/
theorem Shaped.match?_eq_tight {s name blank body before : Text}
    (h : Shaped s name (blank ++ body ++ before)) (hblank : AllBlank blank) (hbody : Tight body)
    (hbefore : BeforeWord before) : match? s = some (name, body) := by
  obtain ⟨hname, markers, word, after, hm, hw, ha, hs⟩ := h
  have hs : s = markers ++
      '@' :: (name ++ ':' :: (blank ++ (body ++ (before ++ (word ++ after))))) := by simp [hs]
  have hcloses : closes name (before ++ (word ++ after)) = true :=
    closes_iff.mpr ⟨before, word, after, hbefore, hw, ha, by simp⟩
  have hends : Body.Ends Body.Chars (fun t => if closes name t then some () else none) body
      (before ++ (word ++ after)) () := by
    refine hbody.ends hname hbefore hw (fun t _ ht => ?_) (if_pos hcloses)
    have htrue : closes name t = true := by
      by_contra hne
      simp [hne] at ht
    obtain ⟨before', word', after', hbefore', hw', -, rfl⟩ := closes_iff.mp htrue
    exact ⟨before', word', after', hbefore', hw', List.append_assoc ..⟩
  rw [hs, match?_eq hm hname, Body.find_eq hblank (hbody.firm.trimStart_append _) hends.shortest_eq]
  rfl

end Block

/-! ### Line directives -/

namespace Line

/-- A body made of units that begins and ends with something else than white space. -/
structure Tight (body : Text) : Prop where
  firm : Text.Firm body
  units : Body.Units body

theorem units_trimStart {s : Text} (h : Body.Units s) : Body.Units (Text.trimStart s) := by
  induction h with
  | nil => exact .nil
  | escaped c hs _ =>
    rw [Text.trimStart_cons (by decide)]
    exact .escaped c hs
  | @plain c s hc hsemi hs ih =>
    cases hblank : isBlank c with
    | true => rwa [show Text.trimStart (c :: s) = Text.trimStart s by simp [Text.trimStart, hblank]]
    | false =>
      rw [Text.trimStart_cons hblank]
      exact .plain hc hsemi hs

/-- The scan finds the body that was written, and goes on behind the `;`, a marker aside. -/
theorem Tight.find_eq {blank body behind : Text} (h : Tight body) (hblank : AllBlank blank)
    (hbehind : AllBlank behind) (t : Text) :
    ∃ rest, Body.find Body.shortestEscaped close? (blank ++ (body ++ (behind ++ ';' :: t))) =
      some ⟨blank, body, rest⟩ ∧ Text.fromAt rest = Text.fromAt t := by
  have hends : Body.Ends Body.Units close? body (behind ++ ';' :: t)
      (Marker.skipFloating Marker.htmlClose t) := by
    refine ⟨h.firm.ne_nil, h.units, close?_append hbehind t, ?_⟩
    rintro b d rfl - hd - hne
    obtain ⟨c, e, hce, hstart⟩ := h.firm.exists_trimStart_append hne
    have hc : ';' ≠ c := by
      rintro rfl
      have hunits := units_trimStart hd
      rw [hce] at hunits
      cases hunits with
      | plain _ hsemi _ => exact hsemi rfl
    rw [close?, hstart, Text.after?, if_neg hc]
    rfl
  refine ⟨_, Body.find_eq hblank (h.firm.trimStart_append _) hends.shortestEscaped_eq, ?_⟩
  obtain ⟨after, hafter, ht⟩ := Marker.exists_skipFloating Marker.htmlClose t
  have hfrom := congrArg Text.fromAt ht
  rw [Text.fromAt_append (hafter.notMem (by decide) (by decide))] at hfrom
  exact hfrom.symm

/-- The strict grammar finds the body that was written. -/
theorem Shaped.match?_eq_tight {s name blank body behind : Text}
    (h : Shaped s name (blank ++ body ++ behind)) (hblank : AllBlank blank) (hbody : Text.Firm body)
    (hbehind : AllBlank behind) : match? s = some (name, body) := by
  obtain ⟨hname, markers, after, hm, ha, hs⟩ := h
  have hs : s = markers ++
      '@' :: (name ++ ':' :: ':' :: (blank ++ (body ++ (behind ++ ';' :: after)))) := by simp [hs]
  have hends : Body.Ends Body.Chars (fun t => (close? t).filter List.isEmpty) body
      (behind ++ ';' :: after) [] := by
    refine ⟨hbody.ne_nil, trivial, ?_, ?_⟩
    · simp only [close?_append hbehind, skipFloating_htmlClose ha]
      rfl
    rintro b d rfl - - - hne
    rw [← Option.not_isSome_iff_eq_none, closes_iff]
    rintro ⟨blank', after', hblank', hafter', hsplit⟩
    -- what is behind the first `;` of a closer holds no other
    obtain ⟨c, e, -, hstart⟩ := hbody.exists_trimStart_append hne
    have htrim := congrArg Text.trimStart hsplit
    rw [hstart, Text.trimStart_of_blank hblank', Text.trimStart_cons (by decide)] at htrim
    refine hafter'.notMem (c := ';') (by decide) (by decide) ?_
    rw [← (List.cons.inj htrim).2]
    simp
  rw [hs, match?_eq hm hname, Body.find_eq hblank (hbody.trimStart_append _) hends.shortest_eq]
  rfl

end Line
end Directives
