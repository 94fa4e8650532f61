import Directives.Proofs.Grammar.Block

/-! Line directives, said without the readers.

As for blocks: an opener is `Opening` markers, `@`, a name and two colons
(`open?_eq_some_iff`), a closer is white space, `;` and a marker (`Closer`), and a
text that is an opener, an inside, a `;` and what may follow it is `Shaped`. Such a
text is no block, whatever its inside holds: a closer of a block has no `;`
(`Shaped.block_match?_eq_none`). -/
namespace Directives.Line

open Text (AllBlank)

/-! ### The parts of a line directive -/

/-- The comment markers in front of an opener. -/
def Opening (s : Text) : Prop :=
  ∃ html comment, Marker.Leading [Marker.htmlOpen] html ∧ Marker.Floating Marker.lineOpen comment ∧
    s = html ++ comment

/-- All that ends the body of a line directive. -/
structure Closer (s : Text) : Prop where
  split : ∃ blank after, AllBlank blank ∧ Marker.Floating Marker.htmlClose after ∧
    s = blank ++ ';' :: after

/-! ### Openers -/

theorem Opening.notMem {s : Text} (h : Opening s) : '@' ∉ s := by
  obtain ⟨html, comment, hh, hc, rfl⟩ := h
  exact List.not_mem_append (hh.notMem (by decide) (by decide)) (hc.notMem (by decide) (by decide))

theorem Opening.trimStart {s : Text} (h : Opening s) : Opening (Text.trimStart s) := by
  obtain ⟨html, comment, hh, hc, rfl⟩ := h
  cases hh with
  | none =>
    cases hc with
    | none => exact ⟨[], [], .none, .none, rfl⟩
    | @some before behind hb ha =>
      rw [List.nil_append, List.append_assoc, Text.trimStart_of_blank hb,
        Marker.trimStart_marker (by decide)]
      exact ⟨[], [] ++ Marker.lineOpen ++ behind, .none, .some Text.allBlank_nil ha, rfl⟩
  | @some marker blank hm hb =>
    have hself : Text.trimStart (marker ++ blank ++ comment) = marker ++ blank ++ comment := by
      rw [List.mem_singleton.mp hm, List.append_assoc]
      exact Marker.trimStart_marker (by decide) _
    rw [hself]
    exact ⟨_, comment, .some hm hb, hc, rfl⟩

/-- The marker in front of an `@` is passed over, also behind white space. -/
theorem skipFloating_comment {comment : Text} (h : Marker.Floating Marker.lineOpen comment) (t : Text) :
    Marker.skipFloating Marker.lineOpen (comment ++ '@' :: t) = '@' :: t ∧
      Marker.skipFloating Marker.lineOpen (Text.trimStart (comment ++ '@' :: t)) = '@' :: t := by
  have hat : Text.trimStart ('@' :: t) = '@' :: t := Text.trimStart_cons (by decide) t
  cases h with
  | none =>
    rw [List.nil_append, hat]
    have hnone : Text.after? Marker.lineOpen (Text.trimStart ('@' :: t)) = none := by rw [hat]; rfl
    exact ⟨Marker.skipFloating_of_none hnone, Marker.skipFloating_of_none hnone⟩
  | @some before behind hb ha =>
    have hskip : ∀ b, AllBlank b →
        Marker.skipFloating Marker.lineOpen (b ++ Marker.lineOpen ++ (behind ++ '@' :: t)) = '@' :: t := by
      intro b hb
      rw [Marker.skipFloating_append (by decide) hb, Text.trimStart_of_blank ha, hat]
    rw [List.append_assoc (before ++ Marker.lineOpen)]
    refine ⟨hskip before hb, ?_⟩
    rw [List.append_assoc, Text.trimStart_of_blank hb, Marker.trimStart_marker (by decide)]
    exact hskip [] Text.allBlank_nil

/-- The markers in front of an `@` are passed over. -/
theorem skipMarkers_append {s : Text} (h : Opening s) (t : Text) :
    Marker.skipFloating Marker.lineOpen (Marker.skip Marker.htmlOpen (s ++ '@' :: t)) = '@' :: t := by
  obtain ⟨html, comment, hh, hc, rfl⟩ := h
  obtain ⟨hskip, hskip'⟩ := skipFloating_comment hc t
  cases hh with
  | none =>
    have hnone : Text.after? Marker.htmlOpen (comment ++ '@' :: t) = none := by
      cases hc with
      | none => rfl
      | @some before behind hb ha =>
        cases before with
        | nil => rfl
        | cons c before =>
          have hc : '<' ≠ c := by
            rintro rfl
            exact absurd (hb '<' (List.mem_cons_self ..)) (by decide)
          simp [Text.after?, Marker.htmlOpen, hc]
    rw [List.nil_append, Marker.skip, Marker.skip?, hnone]
    exact hskip
  | @some marker blank hm hb =>
    rw [List.mem_singleton.mp hm, List.append_assoc, List.append_assoc, Marker.skip,
      Marker.skip?_append, Option.getD_some, Text.trimStart_of_blank hb]
    exact hskip'

theorem open?_eq_some_iff {s name rest : Text} :
    open? s = some (name, rest) ↔ isName name = true ∧
      ∃ markers, Opening markers ∧ s = markers ++ '@' :: (name ++ ':' :: ':' :: rest) := by
  constructor
  · intro h
    simp only [open?, Option.bind_eq_bind, Option.bind_eq_some_iff, Option.some.injEq] at h
    obtain ⟨r, hat, ⟨n, t⟩, hname, u, hcolon, heq⟩ := h
    obtain ⟨rfl, rfl⟩ := Prod.mk.inj heq
    obtain ⟨html, hh, hs⟩ := Marker.exists_skip Marker.htmlOpen s
    obtain ⟨comment, hc, hr⟩ :=
      Marker.exists_skipFloating Marker.lineOpen (Marker.skip Marker.htmlOpen s)
    obtain ⟨hn, hnt, -⟩ := Name.read?_eq_some_iff.mp hname
    have ht : t = [':', ':'] ++ u := Text.after?_eq_some_iff.mp hcolon
    refine ⟨hn, html ++ comment, ⟨html, comment, hh, hc, rfl⟩, ?_⟩
    rw [hs, hr, Text.after?_eq_some_iff.mp hat, hnt, ht, List.append_assoc]
    rfl
  · rintro ⟨hn, markers, hm, rfl⟩
    have hname : Name.read? (name ++ ':' :: ':' :: rest) = some (name, ':' :: ':' :: rest) :=
      Name.read?_eq_some_iff.mpr ⟨hn, rfl, fun c hc => by cases hc; rfl⟩
    simp only [open?, skipMarkers_append hm]
    rw [show Text.after? ['@'] ('@' :: (name ++ ':' :: ':' :: rest)) =
      some (name ++ ':' :: ':' :: rest) from rfl]
    simp only [Option.bind_eq_bind, Option.bind_some, hname]
    rfl

/-! ### Closers -/

theorem close?_eq_some {s rest : Text} (h : close? s = some rest) :
    ∃ c, Closer c ∧ s = c ++ rest := by
  obtain ⟨t, ht, rfl⟩ := Option.map_eq_some_iff.mp h
  obtain ⟨after, ha, hsplit⟩ := Marker.exists_skipFloating Marker.htmlClose t
  refine ⟨Text.leadingBlank s ++ ';' :: after, ⟨_, after, Text.leadingBlank_allBlank s, ha, rfl⟩, ?_⟩
  rw [List.append_assoc, List.cons_append, ← hsplit]
  have hstart : Text.trimStart s = ';' :: t := Text.after?_eq_some_iff.mp ht
  rw [← hstart, Text.leadingBlank_append_trimStart]

theorem close?_append {blank : Text} (hb : AllBlank blank) (s : Text) :
    close? (blank ++ ';' :: s) = some (Marker.skipFloating Marker.htmlClose s) := by
  rw [close?, Text.trimStart_of_blank hb, Text.trimStart_cons (by decide)]
  rfl

theorem close?_trimStart (s : Text) : close? (Text.trimStart s) = close? s := by
  simp only [close?, Text.trimStart_trimStart]

theorem skipFloating_htmlClose {s : Text} (h : Marker.Floating Marker.htmlClose s) :
    Marker.skipFloating Marker.htmlClose s = [] := by
  cases h with
  | none => rfl
  | some hb ha =>
    rw [Marker.skipFloating_append (by decide) hb]
    exact Text.trimStart_eq_nil_iff.mpr ha

/-- The strict grammar asks for a closer and nothing behind it. -/
theorem closes_iff {s : Text} : ((close? s).filter List.isEmpty).isSome = true ↔ Closer s := by
  constructor
  · intro h
    obtain ⟨rest, hrest⟩ := Option.isSome_iff_exists.mp h
    obtain ⟨hclose, hnil⟩ := Option.filter_eq_some_iff.mp hrest
    obtain ⟨c, hc, rfl⟩ := close?_eq_some hclose
    rwa [List.isEmpty_iff.mp hnil, List.append_nil]
  · rintro ⟨blank, after, hb, ha, rfl⟩
    rw [close?_append hb, skipFloating_htmlClose ha]
    rfl

/-! ### Occurrences -/

theorem find_sound {s : Text} {parts : Body.Parts Text}
    (h : Body.find Body.shortestEscaped close? s = some parts) :
    AllBlank parts.blank ∧ parts.body ≠ [] ∧
      ∃ closer, Closer closer ∧ s = parts.blank ++ parts.body ++ closer ++ parts.closed := by
  obtain ⟨hblank, hbody, rest, rfl, hclose⟩ := Body.find_sound Body.shortestEscaped_eq_some h
  obtain ⟨closer, hcloser, rfl⟩ := close?_eq_some hclose
  exact ⟨hblank, hbody, closer, hcloser, (List.append_assoc ..).symm⟩

/-- How a line directive is read: by definition, `at?` is `reading.at?`. -/
def reading : Reading where
  opening := Opening
  colons := [':', ':']
  open? := open?
  find := fun _ => Body.find Body.shortestEscaped close?
  at_notMem := Opening.notMem
  open?_eq_some_iff := open?_eq_some_iff
  opening_nil := ⟨[], [], .none, .none, rfl⟩
  find_sound := fun h => by
    obtain ⟨hblank, hbody, closer, -, hs⟩ := find_sound h
    exact ⟨hblank, hbody, closer, hs⟩

/-! ### Texts that are one line directive -/

/-- A text that is an opener, an inside and the rest of a closer. -/
structure Shaped (s name inside : Text) : Prop where
  named : isName name = true
  split : ∃ markers after, Opening markers ∧ Marker.Floating Marker.htmlClose after ∧
    s = markers ++ '@' :: (name ++ ':' :: ':' :: (inside ++ [';'])) ++ after

/-- What ends a line directive: white space, a `;`, a marker. -/
theorem exists_closer {o : Occurrence} {rest : Text} (h : reading.Stands o rest) :
    ∃ behind after, AllBlank behind ∧ Marker.Floating Marker.htmlClose after ∧
      o.closer = behind ++ ';' :: after := by
  obtain ⟨-, -, closer, ⟨behind, after, hb, ha, rfl⟩, hs⟩ := find_sound h.found
  exact ⟨behind, after, hb, ha, List.append_cancel_left (List.append_cancel_right hs)⟩

/-- A closer reads up to where its line directive ends. -/
theorem close?_closer {o : Occurrence} {rest : Text} (h : reading.Stands o rest) :
    close? (o.closer ++ rest) = some rest :=
  Body.stop_of_find Body.shortestEscaped_eq_some h.found

theorem shaped_of_stands {o : Occurrence} {rest behind after : Text} (h : reading.Stands o rest)
    (ha : Marker.Floating Marker.htmlClose after) (hcloser : o.closer = behind ++ ';' :: after) :
    Shaped o.text o.name (o.blank ++ o.body ++ behind) := by
  obtain ⟨markers, hm, hopener⟩ := h.opener
  have hopener : o.opener = markers ++ '@' :: (o.name ++ [':', ':']) := hopener
  refine ⟨h.named, markers, after, hm, ha, ?_⟩
  rw [Occurrence.text, hopener, hcloser]
  simp

theorem Shaped.trim {s name inside : Text} (h : Shaped s name inside) :
    Shaped (Text.trim s) name inside := by
  obtain ⟨hname, markers, after, hm, ha, rfl⟩ := h
  have hfirm : Text.Firm ('@' :: (name ++ ':' :: ':' :: (inside ++ [';']))) := by
    have hend : Text.Firm [';'] := ⟨by decide, by decide⟩
    have := hend.cons_append (c := '@') (by decide) (name ++ ':' :: ':' :: inside)
    simpa using this
  refine ⟨hname, Text.trimStart markers, Text.trimEnd after, hm.trimStart, ha.trimEnd (by decide), ?_⟩
  rw [Text.trim_around hfirm]

/-- The strict grammar reads the opener and looks for the closer. -/
theorem match?_eq {markers name rest : Text} (hm : Opening markers) (hname : isName name = true) :
    match? (markers ++ '@' :: (name ++ ':' :: ':' :: rest)) =
      (Body.find Body.shortest (fun t => (close? t).filter List.isEmpty) rest).map
        fun parts => (name, parts.body) := by
  rw [match?, open?_eq_some_iff.mpr ⟨hname, markers, hm, rfl⟩]
  simp only [Option.bind_eq_bind, Option.bind_some]
  cases Body.find Body.shortest (fun t => (close? t).filter List.isEmpty) rest <;> rfl

theorem Shaped.match?_eq_some {s name inside : Text} (h : Shaped s name inside) (hne : inside ≠ []) :
    ∃ body, match? s = some (name, body) := by
  obtain ⟨hname, markers, after, hm, ha, hs⟩ := h
  have hs : s = markers ++ '@' :: (name ++ ':' :: ':' :: (inside ++ ';' :: after)) := by simp [hs]
  have hcloser : Closer (';' :: after) := ⟨[], after, Text.allBlank_nil, ha, rfl⟩
  have hsome : (Body.find Body.shortest (fun t => (close? t).filter List.isEmpty)
      (inside ++ ';' :: after)).isSome = true :=
    (Body.find_shortest_isSome_iff fun t => by rw [close?_trimStart]).mpr
      ⟨inside, ';' :: after, rfl, hne, closes_iff.mpr hcloser⟩
  obtain ⟨parts, hparts⟩ := Option.isSome_iff_exists.mp hsome
  exact ⟨parts.body, by rw [hs, match?_eq hm hname, hparts]; rfl⟩

theorem open?_of_match? {s name body : Text} (h : match? s = some (name, body)) :
    ∃ rest, open? s = some (name, rest) := by
  simp only [match?, Option.bind_eq_bind, Option.bind_eq_some_iff, Option.some.injEq] at h
  obtain ⟨⟨n, rest⟩, hopen, parts, -, heq⟩ := h
  cases heq
  exact ⟨rest, hopen⟩

/-- What is read as a line directive has the shape of one. -/
theorem exists_shaped {s name body : Text} (h : match? s = some (name, body)) :
    ∃ inside, inside ≠ [] ∧ Shaped s name inside := by
  obtain ⟨rest, hopen⟩ := open?_of_match? h
  obtain ⟨hname, markers, hm, rfl⟩ := open?_eq_some_iff.mp hopen
  have hfound := Option.isSome_of_eq_some h
  rw [match?_eq hm hname, Option.isSome_map,
    Body.find_shortest_isSome_iff fun t => by rw [close?_trimStart]] at hfound
  obtain ⟨b, r, rfl, hne, hclosed⟩ := hfound
  obtain ⟨blank, after, -, ha, rfl⟩ := closes_iff.mp hclosed
  refine ⟨b ++ blank, List.append_ne_nil_of_left_ne_nil hne blank, hname, markers, after, hm, ha, ?_⟩
  simp

/-- Behind the `;` that ends it a line directive holds no further mark. -/
theorem Shaped.lastMark_eq {s name inside : Text} (h : Shaped s name inside) :
    Text.lastMark s = some ';' := by
  obtain ⟨hname, markers, after, -, ha, rfl⟩ := h
  have hs : markers ++ '@' :: (name ++ ':' :: ':' :: (inside ++ [';'])) ++ after =
      (markers ++ '@' :: (name ++ ':' :: ':' :: inside)) ++ ';' :: after := by simp
  rw [hs]
  exact Text.lastMark_append_cons (by decide) (ha.notMem (by decide) (by decide))
    (ha.notMem (by decide) (by decide)) _

/-- A line directive is no block: their last marks differ. -/
theorem Shaped.block_match?_eq_none {s name inside : Text} (h : Shaped s name inside) :
    Block.match? s = none := by
  rw [← Option.not_isSome_iff_eq_none]
  intro hsome
  obtain ⟨⟨n, body⟩, hblock⟩ := Option.isSome_iff_exists.mp hsome
  obtain ⟨_, -, hshaped⟩ := Block.exists_shaped hblock
  have hmark := hshaped.lastMark_eq
  rw [h.lastMark_eq] at hmark
  exact absurd hmark (by decide)

end Directives.Line
