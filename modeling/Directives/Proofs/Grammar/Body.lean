import Directives.Grammar.Body
import Directives.Proofs.Text

/-! Where a body ends.

A search returns a body exactly when the body *ends* there (`Ends`): what follows
is accepted, and nothing behind one or more units is accepted earlier. Both
searches go unit by unit, so that `Ends` is built and taken apart by one unit at a
time (`Ends.single`, `Ends.cons`, `Ends.of_cons`), whatever a unit is. -/
namespace Directives.Body

variable {α : Type} {stop : Text → Option α} {units : Text → Prop}

/-- `body`, made of units, ends in front of `rest`: there `stop` accepts, and not
before. -/
structure Ends (units : Text → Prop) (stop : Text → Option α) (body rest : Text) (a : α) :
    Prop where
  ne_nil : body ≠ []
  made : units body
  accepts : stop rest = some a
  first : ∀ b d, body = b ++ d → units b → units d → b ≠ [] → d ≠ [] → stop (d ++ rest) = none

/-- Every text is made of characters. -/
def Chars (_ : Text) : Prop := True

/-- A text made of escaped characters and of characters that need no escape. -/
inductive Units : Text → Prop where
  | nil : Units []
  | escaped (c : Char) {s : Text} : Units s → Units ('\\' :: c :: s)
  | plain {c : Char} {s : Text} : c ≠ '\\' → c ≠ ';' → Units s → Units (c :: s)

/-! ### One unit at a time -/

/-- A text that stands at the front of what is made of units, or does not, as a whole. -/
structure IsUnit (units : Text → Prop) (u : Text) : Prop where
  ne_nil : u ≠ []
  nil : units []
  append_iff : ∀ t, units (u ++ t) ↔ units t
  whole : ∀ t b d, u ++ t = b ++ d → units b → b ≠ [] → ∃ e, b = u ++ e

theorem IsUnit.made {u : Text} (h : IsUnit units u) : units u := by
  have := (h.append_iff []).mpr h.nil
  rwa [List.append_nil] at this

theorem isUnit_char (c : Char) : IsUnit Chars [c] := by
  refine ⟨List.cons_ne_nil c [], trivial, fun _ => Iff.rfl, fun t b d h _ hb => ?_⟩
  obtain ⟨e, b, rfl⟩ := List.exists_cons_of_ne_nil hb
  rw [List.cons_append, List.cons_append] at h
  obtain ⟨rfl, -⟩ := List.cons.inj h
  exact ⟨b, rfl⟩

theorem isUnit_plain {c : Char} (hc : c ≠ '\\') (hs : c ≠ ';') : IsUnit Units [c] := by
  refine ⟨List.cons_ne_nil c [], .nil, fun t => ⟨fun h => ?_, .plain hc hs⟩, fun t b d h _ hb => ?_⟩
  · cases h with
    | escaped => exact absurd rfl hc
    | plain _ _ h => exact h
  · obtain ⟨e, b, rfl⟩ := List.exists_cons_of_ne_nil hb
    rw [List.cons_append, List.cons_append] at h
    obtain ⟨rfl, -⟩ := List.cons.inj h
    exact ⟨b, rfl⟩

theorem isUnit_escaped (c : Char) : IsUnit Units ['\\', c] := by
  refine ⟨List.cons_ne_nil _ _, .nil, fun t => ⟨fun h => ?_, .escaped c⟩, fun t b d h hu hb => ?_⟩
  · cases h with
    | escaped _ h => exact h
    | plain h => exact absurd rfl h
  · cases hu with
    | nil => exact absurd rfl hb
    | @escaped e s _ =>
      simp only [List.cons_append, List.cons.injEq] at h
      exact ⟨s, by rw [h.2.1]; rfl⟩
    | plain hne =>
      rw [List.cons_append, List.cons_append] at h
      exact absurd (List.cons.inj h).1.symm hne

theorem Ends.single {u rest : Text} {a : α} (hu : IsUnit units u) (haccepts : stop rest = some a) :
    Ends units stop u rest a := by
  refine ⟨hu.ne_nil, hu.made, haccepts, fun b d h hb _ hbne hdne => ?_⟩
  obtain ⟨e, rfl⟩ := hu.whole [] b d (by rw [List.append_nil, h]) hb hbne
  have hlen := congrArg List.length h
  have := List.length_pos_iff.mpr hdne
  simp only [List.length_append] at hlen
  omega

theorem Ends.cons {u t rest : Text} {a : α} (hu : IsUnit units u) (hnone : stop (t ++ rest) = none)
    (h : Ends units stop t rest a) : Ends units stop (u ++ t) rest a := by
  refine ⟨List.append_ne_nil_of_left_ne_nil hu.ne_nil t, (hu.append_iff t).mpr h.made, h.accepts,
    fun b d hsplit hb hd hbne hdne => ?_⟩
  obtain ⟨e, rfl⟩ := hu.whole t b d hsplit hb hbne
  rw [List.append_assoc] at hsplit
  have ht : t = e ++ d := List.append_cancel_left hsplit
  by_cases he : e = []
  · subst he
    rwa [ht] at hnone
  · exact h.first e d ht ((hu.append_iff e).mp hb) hd he hdne

theorem Ends.of_cons {u t rest : Text} {a : α} (hu : IsUnit units u)
    (ht : t ≠ []) (h : Ends units stop (u ++ t) rest a) :
    stop (t ++ rest) = none ∧ Ends units stop t rest a := by
  have hmade : units t := (hu.append_iff t).mp h.made
  refine ⟨h.first u t rfl hu.made hmade hu.ne_nil ht, ht, hmade, h.accepts, fun b d hsplit hb hd _ hdne => ?_⟩
  refine h.first (u ++ b) d ?_ ((hu.append_iff b).mpr hb) hd
    (List.append_ne_nil_of_left_ne_nil hu.ne_nil b) hdne
  rw [hsplit, List.append_assoc]

/-! ### The searches -/

theorem shortest_eq_some {s body : Text} {a : α} (h : shortest stop s = some (body, a)) :
    ∃ rest, s = body ++ rest ∧ Ends Chars stop body rest a := by
  induction s generalizing body with
  | nil => cases h
  | cons c s ih =>
    rw [shortest] at h
    cases hs : stop s with
    | some e =>
      rw [hs] at h
      obtain ⟨rfl, rfl⟩ := Prod.mk.inj (Option.some.inj h)
      exact ⟨s, rfl, .single (isUnit_char c) hs⟩
    | none =>
      rw [hs] at h
      obtain ⟨⟨t, e⟩, ht, heq⟩ := Option.map_eq_some_iff.mp h
      obtain ⟨rfl, rfl⟩ := Prod.mk.inj heq
      obtain ⟨rest, rfl, hends⟩ := ih ht
      exact ⟨rest, rfl, .cons (isUnit_char c) hs hends⟩

theorem Ends.shortest_eq {body rest : Text} {a : α} (h : Ends Chars stop body rest a) :
    shortest stop (body ++ rest) = some (body, a) := by
  induction body with
  | nil => exact absurd rfl h.ne_nil
  | cons c body ih =>
    rw [List.cons_append, shortest]
    by_cases hnil : body = []
    · subst hnil
      rw [List.nil_append, h.accepts]
    · obtain ⟨hnone, hends⟩ := Ends.of_cons (isUnit_char c) hnil h
      rw [hnone, ih hends]
      rfl

theorem shortest_eq_none_iff {s : Text} :
    shortest stop s = none ↔ ∀ b r, s = b ++ r → b ≠ [] → stop r = none := by
  induction s with
  | nil =>
    refine ⟨fun _ b r hbr hb => ?_, fun _ => rfl⟩
    exact absurd (List.append_eq_nil_iff.mp hbr.symm).1 hb
  | cons c s ih =>
    rw [shortest]
    constructor
    · intro h b r hbr hb
      obtain ⟨d, b, rfl⟩ := List.exists_cons_of_ne_nil hb
      rw [List.cons_append] at hbr
      obtain ⟨rfl, rfl⟩ := List.cons.inj hbr
      cases hs : stop (b ++ r) with
      | some e => rw [hs] at h; cases h
      | none =>
        rw [hs] at h
        by_cases hnil : b = []
        · subst hnil
          exact hs
        · exact ih.mp (Option.map_eq_none_iff.mp h) b r rfl hnil
    · intro h
      have hs : stop s = none := h [c] s rfl (List.cons_ne_nil c [])
      have hlater : shortest stop s = none := ih.mpr fun b r hbr _ =>
        h (c :: b) r (by rw [hbr, List.cons_append]) (List.cons_ne_nil c b)
      rw [hs, hlater]
      rfl

/-- A `\` that neither ends the text nor escapes a character is none. -/
theorem not_escape {c : Char} {s : Text} (hlast : c = '\\' → s = [] → False)
    (hpair : ∀ d t, c = '\\' → s = d :: t → False) : c ≠ '\\' := by
  intro hc
  cases s with
  | nil => exact hlast hc rfl
  | cons d t => exact hpair d t hc rfl

theorem shortestEscaped_eq_some {s body : Text} {a : α}
    (h : shortestEscaped stop s = some (body, a)) :
    ∃ rest, s = body ++ rest ∧ Ends Units stop body rest a := by
  fun_induction shortestEscaped stop s generalizing body with
  | case1 => cases h
  | case2 => cases h
  | case3 c s e hs =>
    obtain ⟨rfl, rfl⟩ := Prod.mk.inj (Option.some.inj h)
    exact ⟨s, rfl, .single (isUnit_escaped c) hs⟩
  | case4 c s hs ih =>
    obtain ⟨⟨t, e⟩, ht, heq⟩ := Option.map_eq_some_iff.mp h
    obtain ⟨rfl, rfl⟩ := Prod.mk.inj heq
    obtain ⟨rest, rfl, hends⟩ := ih ht
    exact ⟨rest, rfl, .cons (isUnit_escaped c) hs hends⟩
  | case5 => cases h
  | case6 c s hlast hpair hc e hs =>
    obtain ⟨rfl, rfl⟩ := Prod.mk.inj (Option.some.inj h)
    exact ⟨s, rfl, .single (isUnit_plain (not_escape hlast hpair) hc) hs⟩
  | case7 c s hlast hpair hc hs ih =>
    obtain ⟨⟨t, e⟩, ht, heq⟩ := Option.map_eq_some_iff.mp h
    obtain ⟨rfl, rfl⟩ := Prod.mk.inj heq
    obtain ⟨rest, rfl, hends⟩ := ih ht
    exact ⟨rest, rfl, .cons (isUnit_plain (not_escape hlast hpair) hc) hs hends⟩

theorem Ends.shortestEscaped_eq {body rest : Text} {a : α} (h : Ends Units stop body rest a) :
    shortestEscaped stop (body ++ rest) = some (body, a) := by
  obtain hmade := h.made
  induction hmade with
  | nil => exact absurd rfl h.ne_nil
  | @escaped c s hs ih =>
    rw [List.cons_append, List.cons_append, shortestEscaped]
    by_cases hnil : s = []
    · subst hnil
      rw [List.nil_append, h.accepts]
    · obtain ⟨hnone, hends⟩ := Ends.of_cons (isUnit_escaped c) hnil h
      rw [hnone, ih hends]
      rfl
  | @plain c s hc hsemi hs ih =>
    rw [List.cons_append, shortestEscaped, if_neg hsemi]
    · by_cases hnil : s = []
      · subst hnil
        rw [List.nil_append, h.accepts]
      · obtain ⟨hnone, hends⟩ := Ends.of_cons (isUnit_plain hc hsemi) hnil h
        rw [hnone, ih hends]
        rfl
    · exact fun h _ => hc h
    · exact fun _ _ h _ => hc h

/-- Units in front of what is accepted end there or before. -/
theorem shortestEscaped_isSome {b r : Text} (hb : Units b) (hne : b ≠ []) (hr : (stop r).isSome = true) :
    (shortestEscaped stop (b ++ r)).isSome = true := by
  obtain ⟨a, ha⟩ := Option.isSome_iff_exists.mp hr
  induction hb with
  | nil => exact absurd rfl hne
  | @escaped c s _ ih =>
    rw [List.cons_append, List.cons_append, shortestEscaped]
    by_cases hnil : s = []
    · subst hnil
      simp [ha]
    · cases hs : stop (s ++ r) with
      | some e => rfl
      | none => simpa using ih hnil
  | @plain c s hc hsemi _ ih =>
    rw [List.cons_append, shortestEscaped, if_neg hsemi]
    · by_cases hnil : s = []
      · subst hnil
        simp [ha]
      · cases hs : stop (s ++ r) with
        | some e => rfl
        | none => simpa using ih hnil
    · exact fun h _ => hc h
    · exact fun _ _ h _ => hc h

/-! ### Body and white space -/

/-- What is found: the search begins behind the white space, and where it fails the
last white space may be the body. -/
theorem find_eq_some {search : (Text → Option α) → Text → Option (Text × α)} {s : Text}
    {parts : Parts α} (h : find search stop s = some parts) :
    (parts.blank = Text.leadingBlank s ∧
        search stop (Text.trimStart s) = some (parts.body, parts.closed)) ∨
      (parts.blank ++ parts.body = Text.leadingBlank s ∧ parts.body ≠ [] ∧
        search stop (Text.trimStart s) = none ∧ stop (Text.trimStart s) = some parts.closed) := by
  simp only [find] at h
  split at h
  next body a hsearch =>
    cases h
    exact .inl ⟨rfl, hsearch⟩
  next hsearch =>
    split at h
    next a last hstop hlast =>
      cases h
      refine .inr ⟨?_, List.cons_ne_nil last [], hsearch, hstop⟩
      exact List.dropLast_append_getLast? last hlast
    next => cases h

theorem leadingBlank_of_firm {b s : Text} (hb : Text.AllBlank b) (hs : Text.trimStart s = s) :
    Text.leadingBlank (b ++ s) = b := by
  have hsplit := Text.leadingBlank_append_trimStart (b ++ s)
  rw [Text.trimStart_of_blank hb, hs] at hsplit
  exact List.append_cancel_right hsplit

/-- A body behind white space is found there. -/
theorem find_eq {search : (Text → Option α) → Text → Option (Text × α)} {blank s body : Text} {a : α}
    (hb : Text.AllBlank blank) (hs : Text.trimStart s = s) (h : search stop s = some (body, a)) :
    find search stop (blank ++ s) = some ⟨blank, body, a⟩ := by
  simp only [find, Text.trimStart_of_blank hb, hs, h, leadingBlank_of_firm hb hs]

/-- The parts that are found make up the text. -/
theorem find_sound {search : (Text → Option α) → Text → Option (Text × α)} {s : Text}
    {parts : Parts α}
    (hsearch : ∀ {t body a}, search stop t = some (body, a) →
      ∃ rest, t = body ++ rest ∧ Ends units stop body rest a)
    (h : find search stop s = some parts) :
    Text.AllBlank parts.blank ∧ parts.body ≠ [] ∧
      ∃ rest, s = parts.blank ++ parts.body ++ rest ∧ stop rest = some parts.closed := by
  rcases find_eq_some h with ⟨hblank, hfound⟩ | ⟨hblank, hne, -, hstop⟩
  · obtain ⟨rest, ht, hends⟩ := hsearch hfound
    refine ⟨hblank ▸ Text.leadingBlank_allBlank s, hends.ne_nil, rest, ?_, hends.accepts⟩
    rw [List.append_assoc, ← ht, hblank, Text.leadingBlank_append_trimStart]
  · refine ⟨fun c hc => ?_, hne, Text.trimStart s, ?_, hstop⟩
    · refine Text.leadingBlank_allBlank s c ?_
      rw [← hblank]
      exact List.mem_append_left _ hc
    · rw [hblank, Text.leadingBlank_append_trimStart]

/-- Where parts are found, it is the text behind them that is accepted. -/
theorem stop_of_find {search : (Text → Option α) → Text → Option (Text × α)}
    {blank body closer rest : Text} {a : α}
    (hsearch : ∀ {t body a}, search stop t = some (body, a) →
      ∃ rest, t = body ++ rest ∧ Ends units stop body rest a)
    (h : find search stop (blank ++ body ++ closer ++ rest) = some ⟨blank, body, a⟩) :
    stop (closer ++ rest) = some a := by
  obtain ⟨-, -, behind, hs, hstop⟩ := find_sound hsearch h
  rw [List.append_assoc] at hs
  rwa [List.append_cancel_left hs]

/-- A body begins behind the white space and ends where `stop` accepts, or it is the last
of that white space, which `stop` accepts the rest behind. -/
theorem find_cases {search : (Text → Option α) → Text → Option (Text × α)} {blank body rest : Text}
    {a : α} (hsearch : ∀ {t body a}, search stop t = some (body, a) →
      ∃ rest, t = body ++ rest ∧ Ends units stop body rest a)
    (h : find search stop (blank ++ body ++ rest) = some ⟨blank, body, a⟩) :
    ((∃ c t, body = c :: t ∧ isBlank c = false) ∧ Ends units stop body rest a) ∨
      (∃ c, body = [c] ∧ isBlank c = true) ∧ Text.trimStart rest = rest ∧ search stop rest = none ∧
        stop rest = some a := by
  have hsplit := Text.leadingBlank_append_trimStart (blank ++ body ++ rest)
  simp only [find] at h
  split at h
  next b e hfound =>
    obtain ⟨hblank, rfl, rfl⟩ := (Parts.mk.injEq ..).mp (Option.some.inj h)
    obtain ⟨rest', htrim, hends⟩ := hsearch hfound
    rw [hblank, htrim, List.append_assoc] at hsplit
    obtain rfl := List.append_cancel_left (List.append_cancel_left hsplit)
    obtain ⟨c, t, rfl⟩ := List.exists_cons_of_ne_nil hends.ne_nil
    rw [List.cons_append] at htrim
    exact .inl ⟨⟨c, t, rfl, Text.not_blank_of_trimStart_eq_cons htrim⟩, hends⟩
  next hnone =>
    split at h
    next e last hstop hlast =>
      obtain ⟨hblank, rfl, rfl⟩ := (Parts.mk.injEq ..).mp (Option.some.inj h)
      have hlead : blank ++ [last] = Text.leadingBlank (blank ++ [last] ++ rest) := by
        have hconcat := List.dropLast_append_getLast? last hlast
        rwa [hblank] at hconcat
      rw [← hlead] at hsplit
      have hrest := List.append_cancel_left hsplit
      rw [hrest] at hnone hstop
      have hmem : last ∈ Text.leadingBlank (blank ++ [last] ++ rest) := by
        rw [← hlead]
        exact List.mem_append_right _ (List.mem_singleton_self _)
      refine .inr ⟨⟨last, rfl, Text.leadingBlank_allBlank _ last hmem⟩, ?_, hnone, hstop⟩
      rw [← hrest, Text.trimStart_trimStart]
    next => cases h

/-- White space that `stop` accepts the rest behind has its last character as the body, where the
search finds none. -/
theorem find_eq_of_blank {search : (Text → Option α) → Text → Option (Text × α)} {blank rest : Text}
    {c : Char} {a : α} (hblank : Text.AllBlank (blank ++ [c])) (hrest : Text.trimStart rest = rest)
    (hnone : search stop rest = none) (ha : stop rest = some a) :
    find search stop (blank ++ [c] ++ rest) = some ⟨blank, [c], a⟩ := by
  simp only [find, Text.trimStart_of_blank hblank, hrest, hnone, ha, leadingBlank_of_firm hblank hrest]
  simp

/-- The body that was found is found in front of another rest, and for another `stop'`, where this accepts
that rest and refuses what was refused in front of it. -/
theorem find_congr {β : Type} {stop' : Text → Option β} {search : (Text → Option α) → Text → Option (Text × α)}
    {search' : (Text → Option β) → Text → Option (Text × β)} {blank body rest rest' : Text} {a : α} {b : β}
    (hsound : ∀ {t body a}, search stop t = some (body, a) →
      ∃ rest, t = body ++ rest ∧ Ends units stop body rest a)
    (hcomplete : ∀ {body rest b}, Ends units stop' body rest b → search' stop' (body ++ rest) = some (body, b))
    (h : find search stop (blank ++ body ++ rest) = some ⟨blank, body, a⟩) (hb : stop' rest' = some b)
    (hfirst : ∀ d, stop (d ++ rest) = none → stop' (d ++ rest') = none)
    (hstart : Text.trimStart rest = rest → Text.trimStart rest' = rest')
    (hnone : Text.trimStart rest = rest → search stop rest = none → search' stop' rest' = none) :
    find search' stop' (blank ++ body ++ rest') = some ⟨blank, body, b⟩ := by
  have hblank := (find_sound hsound h).1
  rcases find_cases hsound h with ⟨⟨c, t, hct, hc⟩, hends⟩ | ⟨⟨c, rfl, hc⟩, hrest, hlater, -⟩
  · have hends' : Ends units stop' body rest' b :=
      ⟨hends.ne_nil, hends.made, hb, fun p d hsplit hp hd hpne hdne =>
        hfirst d (hends.first p d hsplit hp hd hpne hdne)⟩
    have hbody : Text.trimStart (body ++ rest') = body ++ rest' := by
      rw [hct, List.cons_append, Text.trimStart_cons hc]
    rw [List.append_assoc]
    exact find_eq hblank hbody (hcomplete hends')
  · exact find_eq_of_blank (hblank.append (by simpa [Text.AllBlank] using hc)) (hstart hrest)
      (hnone hrest hlater) hb

theorem find_isSome_of_blank {search : (Text → Option α) → Text → Option (Text × α)} {s : Text}
    (hblank : Text.leadingBlank s ≠ []) (hstop : (stop (Text.trimStart s)).isSome = true) :
    (find search stop s).isSome = true := by
  obtain ⟨a, ha⟩ := Option.isSome_iff_exists.mp hstop
  simp only [find]
  cases search stop (Text.trimStart s) with
  | some found => rfl
  | none => simp [ha, List.getLast?_eq_some_getLast hblank]

/-- There is a body exactly when a closer follows at some distance. -/
theorem find_shortest_isSome_iff (hstop : ∀ s, stop (Text.trimStart s) = stop s) {s : Text} :
    (find shortest stop s).isSome = true ↔ ∃ b r, s = b ++ r ∧ b ≠ [] ∧ (stop r).isSome = true := by
  constructor
  · intro h
    obtain ⟨parts, hparts⟩ := Option.isSome_iff_exists.mp h
    obtain ⟨-, hne, rest, hs, haccepts⟩ := find_sound shortest_eq_some hparts
    exact ⟨parts.blank ++ parts.body, rest, hs, by simp [hne], by rw [haccepts]; rfl⟩
  · rintro ⟨b, r, hs, hb, hr⟩
    cases hfound : shortest stop (Text.trimStart s) with
    | some found =>
      simp only [find, hfound]
      rfl
    | none =>
      have hnone := shortest_eq_none_iff.mp hfound
      have hsplit := (Text.leadingBlank_append_trimStart s).trans hs
      -- the closer cannot follow behind the first character, so it follows the white space
      rcases List.append_eq_append_iff.mp hsplit with ⟨e, rfl, ht⟩ | ⟨e, hlead, rfl⟩
      · by_cases he : e = []
        · subst he
          rw [List.nil_append] at ht
          rw [List.append_nil] at hb
          exact find_isSome_of_blank hb (by rwa [ht])
        · rw [hnone e r ht he] at hr
          cases hr
      · have hne : Text.leadingBlank s ≠ [] := by simp [hlead, hb]
        refine find_isSome_of_blank hne ?_
        have heblank : Text.AllBlank e := fun c hc =>
          Text.leadingBlank_allBlank s c (hlead ▸ List.mem_append_right b hc)
        rwa [← hstop (e ++ _), Text.trimStart_of_blank heblank, Text.trimStart_trimStart] at hr

end Directives.Body
