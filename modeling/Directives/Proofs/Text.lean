import Directives.Text.Blank
import Directives.Text.Span
import Mathlib.Data.List.Basic
import Mathlib.Data.List.TakeWhile

/-! Trimming, taking out tabs and cutting, on a text put together from parts.

A text that is *firm*, that is not empty and keeps all it has when it is trimmed,
shields what stands between its ends: whatever stands around it is trimmed on its
own (`trim_around`). The tab is white space, so that taking out tabs and trimming
may change places (`trim_withoutTabs`). -/
namespace Directives.Text

/-! ### White space -/

/-- White space and nothing else. -/
def AllBlank (s : Text) : Prop := ∀ c ∈ s, isBlank c = true

theorem allBlank_nil : AllBlank [] := fun _ hc => nomatch hc

theorem AllBlank.append {s t : Text} (hs : AllBlank s) (ht : AllBlank t) : AllBlank (s ++ t) :=
  fun c hc => (List.mem_append.mp hc).elim (hs c) (ht c)

theorem AllBlank.notMem {s : Text} {c : Char} (hs : AllBlank s) (hc : isBlank c = false) :
    c ∉ s := by
  intro hmem
  rw [hs c hmem] at hc
  exact Bool.noConfusion hc

theorem AllBlank.withoutTabs {s : Text} (hs : AllBlank s) : AllBlank (withoutTabs s) :=
  fun c hc => hs c (List.mem_filter.mp hc).1

theorem leadingBlank_allBlank (s : Text) : AllBlank (leadingBlank s) := by
  intro c hc
  exact (List.all_eq_true.mp (List.all_takeWhile (p := isBlank) (l := s))) c hc

/-! ### The start of a text -/

theorem trimStart_of_blank {b : Text} (hb : AllBlank b) (s : Text) :
    trimStart (b ++ s) = trimStart s :=
  List.dropWhile_append_of_pos hb

theorem trimStart_cons {c : Char} (hc : isBlank c = false) (s : Text) :
    trimStart (c :: s) = c :: s := by
  simp [trimStart, hc]

theorem trimStart_at (s : Text) : trimStart ('@' :: s) = '@' :: s :=
  trimStart_cons (by decide) s

theorem trimStart_trimStart (s : Text) : trimStart (trimStart s) = trimStart s := by
  have h := trimStart_of_blank (leadingBlank_allBlank s) (trimStart s)
  rw [leadingBlank_append_trimStart] at h
  exact h.symm

theorem trimStart_eq_nil_iff {s : Text} : trimStart s = [] ↔ AllBlank s :=
  List.dropWhile_eq_nil_iff

theorem tail_trimStart_suffix (s : Text) : (trimStart s).tail <:+ s.tail := by
  cases s with
  | nil => exact List.suffix_rfl
  | cons c s =>
    cases hc : isBlank c with
    | true =>
      rw [show trimStart (c :: s) = trimStart s by simp [trimStart, hc]]
      exact (List.tail_suffix _).trans (List.dropWhile_suffix _)
    | false => simp only [trimStart_cons hc, List.suffix_rfl]

/-- White space at the start of a text ends where a firm part begins. -/
theorem trimStart_append {s : Text} (hs : trimStart s = s) (a : Text) :
    trimStart (a ++ s) = trimStart a ++ s := by
  by_cases ha : AllBlank a
  · rw [trimStart_of_blank ha, hs, trimStart_eq_nil_iff.mpr ha, List.nil_append]
  · have hne : (trimStart a).isEmpty = false := by
      rw [List.isEmpty_eq_false_iff]
      exact fun h => ha (trimStart_eq_nil_iff.mp h)
    show List.dropWhile isBlank (a ++ s) = _
    rw [List.dropWhile_append]
    show (if (trimStart a).isEmpty = true then _ else _) = _
    rw [hne]
    rfl

theorem leadingBlank_append {s : Text} (hs : trimStart s = s) (a : Text) :
    leadingBlank (a ++ s) = leadingBlank a := by
  refine (List.append_left_inj (trimStart (a ++ s))).mp ?_
  rw [leadingBlank_append_trimStart, trimStart_append hs, ← List.append_assoc, leadingBlank_append_trimStart]

theorem not_blank_of_trimStart_eq_cons {s t : Text} {c : Char} (h : trimStart s = c :: t) :
    isBlank c = false := by
  have hne : List.dropWhile isBlank s ≠ [] := by
    rw [show List.dropWhile isBlank s = c :: t from h]
    exact List.cons_ne_nil c t
  have hhead := List.head_dropWhile_not isBlank hne
  simpa only [show List.dropWhile isBlank s = c :: t from h, List.head_cons] using hhead

theorem trimStart_eq_of_append {s t : Text} (h : trimStart (s ++ t) = s ++ t) : trimStart s = s := by
  cases s with
  | nil => rfl
  | cons c s => exact trimStart_cons (not_blank_of_trimStart_eq_cons h) s

theorem AllBlank.eq_nil_of_trimStart {b s : Text} (hb : AllBlank b) (h : trimStart (b ++ s) = b ++ s) :
    b = [] := by
  cases b with
  | nil => rfl
  | cons c b =>
    have hc := not_blank_of_trimStart_eq_cons h
    rw [hb c (List.mem_cons_self ..)] at hc
    cases hc

theorem mem_trimStart {s : Text} {c : Char} (hc : isBlank c = false) (h : c ∈ s) : c ∈ trimStart s := by
  rw [← leadingBlank_append_trimStart s] at h
  exact (List.mem_append.mp h).resolve_left ((leadingBlank_allBlank s).notMem hc)

/-! ### The end of a text -/

theorem trimEnd_cons (c : Char) (s : Text) :
    trimEnd (c :: s) = if trimEnd s = [] then (if isBlank c then [] else [c]) else c :: trimEnd s := by
  rw [trimEnd]
  cases trimEnd s <;> rfl

theorem trimEnd_eq_nil_iff {s : Text} : trimEnd s = [] ↔ AllBlank s := by
  induction s with
  | nil => simp [trimEnd, AllBlank]
  | cons c s ih =>
    rw [trimEnd_cons]
    by_cases hs : trimEnd s = []
    · have hblank : AllBlank s := ih.mp hs
      cases hc : isBlank c <;> simp_all [AllBlank]
    · have : ¬ AllBlank s := fun h => hs (ih.mpr h)
      simp only [hs, if_false, List.cons_ne_nil, false_iff]
      exact fun h => this fun d hd => h d (List.mem_cons_of_mem c hd)

theorem trimEnd_of_blank (s : Text) {b : Text} (hb : AllBlank b) : trimEnd (s ++ b) = trimEnd s := by
  induction s with
  | nil => rw [List.nil_append, trimEnd_eq_nil_iff.mpr hb]; rfl
  | cons c s ih => rw [List.cons_append, trimEnd_cons, trimEnd_cons, ih]

theorem exists_blank_trimEnd (s : Text) : ∃ b, AllBlank b ∧ s = trimEnd s ++ b := by
  induction s with
  | nil => exact ⟨[], allBlank_nil, rfl⟩
  | cons c s ih =>
    obtain ⟨b, hb, hs⟩ := ih
    rw [trimEnd_cons]
    by_cases hnil : trimEnd s = []
    · rw [if_pos hnil]
      cases hc : isBlank c
      · exact ⟨s, trimEnd_eq_nil_iff.mp hnil, rfl⟩
      · refine ⟨c :: s, ?_, rfl⟩
        intro d hd
        rcases List.mem_cons.mp hd with rfl | hd
        · exact hc
        · exact trimEnd_eq_nil_iff.mp hnil d hd
    · rw [if_neg hnil]
      exact ⟨b, hb, by rw [List.cons_append, ← hs]⟩

theorem trimEnd_of_ne_nil {s : Text} (h : trimEnd s ≠ []) (a : Text) :
    trimEnd (a ++ s) = a ++ trimEnd s := by
  induction a with
  | nil => rfl
  | cons c a ih => rw [List.cons_append, trimEnd_cons, ih, if_neg (by simp [h]), List.cons_append]

/-- White space at the end of a text begins where a firm part ends. -/
theorem trimEnd_append {s : Text} (hs : trimEnd s = s) (a : Text) :
    trimEnd (s ++ a) = s ++ trimEnd a := by
  by_cases ha : trimEnd a = []
  · rw [trimEnd_of_blank s (trimEnd_eq_nil_iff.mp ha), hs, ha, List.append_nil]
  · exact trimEnd_of_ne_nil ha s

/-! ### Firm texts -/

/-- A text that begins and ends with something else than white space. -/
structure Firm (s : Text) : Prop where
  ne_nil : s ≠ []
  trim_eq : trim s = s

theorem Firm.trimStart_eq {s : Text} (h : Firm s) : trimStart s = s := by
  obtain ⟨b, _, hb⟩ := exists_blank_trimEnd (trimStart s)
  have hlead := congrArg List.length (leadingBlank_append_trimStart s)
  have hlen := congrArg List.length hb
  have htrim : (trimEnd (trimStart s)).length = s.length := congrArg List.length h.trim_eq
  rw [List.length_append] at hlead hlen
  have hnil : leadingBlank s = [] := List.length_eq_zero_iff.mp (by omega)
  have hsplit := leadingBlank_append_trimStart s
  rwa [hnil, List.nil_append] at hsplit

theorem Firm.trimEnd_eq {s : Text} (h : Firm s) : trimEnd s = s := by
  have htrim := h.trim_eq
  rwa [trim, h.trimStart_eq] at htrim

theorem firm_of_trims {s : Text} (hne : s ≠ []) (hstart : trimStart s = s) (hend : trimEnd s = s) :
    Firm s :=
  ⟨hne, by rw [trim, hstart, hend]⟩

theorem firm_of_not_blank {s : Text} (hne : s ≠ []) (h : ∀ c ∈ s, isBlank c = false) : Firm s := by
  have hstart : trimStart s = s := by
    obtain ⟨c, t, rfl⟩ := List.exists_cons_of_ne_nil hne
    exact trimStart_cons (h c (List.mem_cons_self ..)) t
  refine firm_of_trims hne hstart ?_
  obtain ⟨t, d, rfl⟩ : ∃ t d, s = t ++ [d] :=
    ⟨s.dropLast, s.getLast hne, (List.dropLast_concat_getLast hne).symm⟩
  have hend : trimEnd [d] = [d] := by simp [trimEnd, h d (by simp)]
  rw [trimEnd_of_ne_nil (by simp [hend]), hend]

theorem Firm.trimStart_append {s : Text} (h : Firm s) (b : Text) : trimStart (s ++ b) = s ++ b := by
  obtain ⟨c, t, rfl⟩ := List.exists_cons_of_ne_nil h.ne_nil
  exact trimStart_cons (not_blank_of_trimStart_eq_cons h.trimStart_eq) (t ++ b)

theorem Firm.trimEnd_append {s : Text} (h : Firm s) (a : Text) : trimEnd (a ++ s) = a ++ s := by
  have hne : trimEnd s ≠ [] := by
    rw [h.trimEnd_eq]
    exact h.ne_nil
  rw [trimEnd_of_ne_nil hne, h.trimEnd_eq]

/-- What begins with something else than white space and ends with a firm text is firm. -/
theorem Firm.cons_append {c : Char} {t : Text} (ht : Firm t) (hc : isBlank c = false) (s : Text) :
    Firm (c :: (s ++ t)) := by
  refine firm_of_trims (List.cons_ne_nil c _) (trimStart_cons hc _) ?_
  rw [← List.cons_append, ht.trimEnd_append]

/-- Around a firm text both sides are trimmed on their own. -/
theorem trim_around {s : Text} (h : Firm s) (a b : Text) :
    trim (a ++ s ++ b) = trimStart a ++ s ++ trimEnd b := by
  rw [trim, List.append_assoc, trimStart_append (h.trimStart_append b), ← List.append_assoc,
    trimEnd_append (h.trimEnd_append (trimStart a))]

theorem Firm.exists_first {s : Text} (h : Firm s) : ∃ c t, s = c :: t ∧ isBlank c = false := by
  obtain ⟨c, t, rfl⟩ := List.exists_cons_of_ne_nil h.ne_nil
  exact ⟨c, t, rfl, not_blank_of_trimStart_eq_cons h.trimStart_eq⟩

theorem Firm.exists_last {s : Text} (h : Firm s) : ∃ t c, s = t ++ [c] ∧ isBlank c = false := by
  obtain ⟨t, c, rfl⟩ : ∃ t c, s = t ++ [c] :=
    ⟨s.dropLast, s.getLast h.ne_nil, (List.dropLast_concat_getLast h.ne_nil).symm⟩
  refine ⟨t, c, rfl, ?_⟩
  cases hc : isBlank c
  · rfl
  · have hb : AllBlank [c] := by simpa [AllBlank] using hc
    have hshort : trimEnd t = t ++ [c] := (trimEnd_of_blank t hb).symm.trans h.trimEnd_eq
    obtain ⟨b, _, ht⟩ := exists_blank_trimEnd t
    have hlen := congrArg List.length ht
    rw [hshort] at hlen
    simp only [List.length_append, List.length_cons, List.length_nil] at hlen
    omega

theorem Firm.exists_last_append {b d : Text} (h : Firm (b ++ d)) (hd : d ≠ []) :
    ∃ e c, d = e ++ [c] ∧ isBlank c = false := by
  obtain ⟨t, c, hsplit, hc⟩ := h.exists_last
  have hlast : d = d.dropLast ++ [d.getLast hd] := (List.dropLast_concat_getLast hd).symm
  rw [hlast, ← List.append_assoc] at hsplit
  obtain ⟨-, hsame⟩ := List.append_inj' hsplit rfl
  exact ⟨d.dropLast, c, by rw [← hsame, ← hlast], hc⟩

/-- The end of a firm text keeps its own start, whatever stands behind it. -/
theorem Firm.exists_trimStart_append {b d : Text} (h : Firm (b ++ d)) (hd : d ≠ []) :
    ∃ c e, trimStart d = c :: e ∧ ∀ s, trimStart (d ++ s) = c :: (e ++ s) := by
  obtain ⟨t, last, rfl, hlast⟩ := h.exists_last_append hd
  have hnot : ¬ AllBlank (t ++ [last]) := fun hb => hb.notMem hlast (by simp)
  obtain ⟨c, e, hce⟩ := List.exists_cons_of_ne_nil fun hnil => hnot (trimStart_eq_nil_iff.mp hnil)
  refine ⟨c, e, hce, fun s => ?_⟩
  rw [← leadingBlank_append_trimStart (t ++ [last]), List.append_assoc,
    trimStart_of_blank (leadingBlank_allBlank _), hce, List.cons_append,
    trimStart_cons (not_blank_of_trimStart_eq_cons hce)]

/-- A text is white space, or a firm text between white space. -/
theorem allBlank_or_firm (s : Text) :
    AllBlank s ∨ ∃ a b, AllBlank a ∧ AllBlank b ∧ Firm (trim s) ∧ s = a ++ trim s ++ b := by
  obtain ⟨b, hb, hs⟩ := exists_blank_trimEnd (trimStart s)
  change trimStart s = trim s ++ b at hs
  by_cases hnil : trim s = []
  · left
    have hstart : AllBlank (trimStart s) := trimEnd_eq_nil_iff.mp hnil
    have hall := (leadingBlank_allBlank s).append hstart
    rwa [leadingBlank_append_trimStart] at hall
  · right
    obtain ⟨c, t, hct⟩ := List.exists_cons_of_ne_nil hnil
    have hc : isBlank c = false := by
      rw [hct, List.cons_append] at hs
      exact not_blank_of_trimStart_eq_cons hs
    have hstart : trimStart (trim s) = trim s := by rw [hct, trimStart_cons hc]
    have hend : trimEnd (trim s) = trim s := by
      rw [← trimEnd_of_blank (trim s) hb, ← hs]
      rfl
    refine ⟨leadingBlank s, b, leadingBlank_allBlank s, hb, firm_of_trims hnil hstart hend, ?_⟩
    rw [List.append_assoc, ← hs, leadingBlank_append_trimStart]

/-- What stands behind a text that is not all white space does not change what it begins with. -/
theorem leadingBlank_of_not_allBlank {s : Text} (h : ¬ AllBlank s) (t : Text) :
    leadingBlank (s ++ t) = leadingBlank s := by
  obtain ⟨a, b, -, -, hfirm, hs⟩ := (allBlank_or_firm s).resolve_left h
  generalize trim s = m at hfirm hs
  rw [hs, List.append_assoc, List.append_assoc, List.append_assoc a,
    leadingBlank_append (hfirm.trimStart_append _), leadingBlank_append (hfirm.trimStart_append _)]

/-! ### Tabs -/

theorem withoutTabs_append (s t : Text) : withoutTabs (s ++ t) = withoutTabs s ++ withoutTabs t :=
  List.filter_append s t

theorem withoutTabs_eq_self {s : Text} (h : '\t' ∉ s) : withoutTabs s = s := by
  refine List.filter_eq_self.mpr fun c hc => ?_
  have : c ≠ '\t' := fun he => h (he ▸ hc)
  simpa using this

theorem withoutTabs_cons {c : Char} (hc : isBlank c = false) (s : Text) :
    withoutTabs (c :: s) = c :: withoutTabs s := by
  have : c ≠ '\t' := by
    rintro rfl
    exact absurd hc (by decide)
  simp [withoutTabs, this]

theorem Firm.withoutTabs {s : Text} (h : Firm s) : Firm (withoutTabs s) := by
  have hstart : ∃ c t, Text.withoutTabs s = c :: t ∧ isBlank c = false := by
    obtain ⟨c, t, rfl, hc⟩ := h.exists_first
    exact ⟨c, Text.withoutTabs t, withoutTabs_cons hc t, hc⟩
  obtain ⟨c, t, hs, hc⟩ := hstart
  refine firm_of_trims (by simp [hs]) (by rw [hs, trimStart_cons hc]) ?_
  obtain ⟨u, d, rfl, hd⟩ := h.exists_last
  have hend : trimEnd [d] = [d] := by simp [trimEnd, hd]
  rw [withoutTabs_append, withoutTabs_cons hd, show Text.withoutTabs [] = [] from rfl,
    trimEnd_of_ne_nil (by simp [hend]), hend]

theorem trim_of_blank {s : Text} (h : AllBlank s) : trim s = [] := by
  rw [trim, trimStart_eq_nil_iff.mpr h]
  rfl

theorem trim_of_blank_around {a b s : Text} (ha : AllBlank a) (hb : AllBlank b) (h : Firm s) :
    trim (a ++ s ++ b) = s := by
  rw [trim_around h, trimStart_eq_nil_iff.mpr ha, trimEnd_eq_nil_iff.mpr hb, List.nil_append,
    List.append_nil]

/-- Trimming and taking out tabs may change places. -/
theorem trim_withoutTabs (s : Text) : trim (withoutTabs s) = withoutTabs (trim s) := by
  rcases allBlank_or_firm s with hs | ⟨a, b, ha, hb, hfirm, hs⟩
  · rw [trim_of_blank hs, trim_of_blank hs.withoutTabs]
    rfl
  · have htrim : trim (withoutTabs s) = trim (withoutTabs (a ++ trim s ++ b)) := by rw [← hs]
    rw [htrim, withoutTabs_append, withoutTabs_append,
      trim_of_blank_around ha.withoutTabs hb.withoutTabs hfirm.withoutTabs]

/-! ### Cutting by bytes -/

theorem cut?_append (a b : Text) : cut? (byteSize a) (a ++ b) = some (a, b) := by
  induction a with
  | nil => cases b <;> rfl
  | cons c a ih =>
    have hpos := Char.utf8Size_pos c
    have hle : c.utf8Size ≤ byteSize (c :: a) := by simp
    have hrest : byteSize (c :: a) - c.utf8Size = byteSize a := by simp
    rw [List.cons_append, cut?, if_pos hle, hrest, ih]
    · rfl
    · rw [byteSize_cons]
      omega

theorem byteSize_pos {s : Text} (h : s ≠ []) : 0 < byteSize s := by
  obtain ⟨c, t, rfl⟩ := List.exists_cons_of_ne_nil h
  have := Char.utf8Size_pos c
  rw [byteSize_cons]
  omega

theorem byteSize_le_of_sublist {s t : Text} (h : t.Sublist s) : byteSize t ≤ byteSize s := by
  induction h with
  | slnil => exact le_rfl
  | cons c _ ih => exact ih.trans (Nat.le_add_left ..)
  | cons_cons c _ ih => exact Nat.add_le_add_left ih _

/-- A byte position splits a text in one way. -/
theorem append_inj_of_byteSize {a b s t : Text} (h : a ++ s = b ++ t)
    (hsize : byteSize a = byteSize b) : a = b ∧ s = t := by
  have hcut := cut?_append a s
  rw [h, hsize, cut?_append b t] at hcut
  obtain ⟨rfl, rfl⟩ := Prod.mk.inj (Option.some.inj hcut)
  exact ⟨rfl, rfl⟩

/-- What stands between two parts is what its span covers. -/
theorem slice?_append (a m b : Text) :
    slice? (a ++ m ++ b) ⟨byteSize a, byteSize a + byteSize m⟩ = some m := by
  have hm : byteSize a + byteSize m - byteSize a = byteSize m := by omega
  simp only [slice?, List.append_assoc, cut?_append, hm, Option.bind_eq_bind, Option.bind_some]

/-- What stands between two parts is what is replaced. -/
theorem splice?_append (a m b new : Text) :
    splice? (a ++ m ++ b) ⟨byteSize a, byteSize a + byteSize m⟩ new = some (a ++ new ++ b) := by
  have hstop := cut?_append (a ++ m) b
  rw [byteSize_append] at hstop
  simp only [splice?, hstop, Option.bind_eq_bind, Option.bind_some]
  rw [List.append_assoc a m b, cut?_append]
  rfl

/-! ### Shorter texts -/

/-- Of fewer characters and of fewer bytes. -/
structure Shorter (t s : Text) : Prop where
  length : t.length < s.length
  byteSize : byteSize t < byteSize s

theorem Shorter.trans_sublist {s t u : Text} (h : Shorter t s) (hs : s.Sublist u) : Shorter t u :=
  ⟨h.length.trans_le hs.length_le, h.byteSize.trans_le (byteSize_le_of_sublist hs)⟩

theorem shorter_of_sublist {s t u : Text} (ht : t.Sublist s) (h : Shorter s u) : Shorter t u :=
  ⟨ht.length_le.trans_lt h.length, (byteSize_le_of_sublist ht).trans_lt h.byteSize⟩

theorem Shorter.trans {s t u : Text} (ht : Shorter t s) (h : Shorter s u) : Shorter t u :=
  ⟨ht.length.trans h.length, ht.byteSize.trans h.byteSize⟩

theorem shorter_cons (c : Char) (s : Text) : Shorter s (c :: s) :=
  ⟨Nat.lt_succ_self _, Nat.lt_add_of_pos_left (Char.utf8Size_pos c)⟩

/-! ### The first place of a character -/

/-- A part that begins with `c` does not begin where there is no `c`. -/
theorem infix_append_of_notMem {c : Char} {p a : Text} (h : c ∉ a) (s : Text) :
    c :: p <:+: a ++ s ↔ c :: p <:+: s := by
  induction a with
  | nil => rfl
  | cons d a ih =>
    have hne : c ≠ d := fun he => h (he ▸ List.mem_cons_self ..)
    rw [List.cons_append, List.infix_cons_iff, ih fun hm => h (List.mem_cons_of_mem d hm)]
    constructor
    · rintro (hp | hs)
      · exact absurd (List.cons_prefix_cons.mp hp).1 hne
      · exact hs
    · exact Or.inr

/-- A text has one place where it holds `c` for the first time. -/
theorem append_cons_inj {c : Char} {a b s t : Text} (ha : c ∉ a) (hb : c ∉ b)
    (h : a ++ c :: s = b ++ c :: t) : a = b ∧ s = t := by
  rcases List.append_eq_append_iff.mp h with ⟨e, rfl, he⟩ | ⟨e, rfl, he⟩
  all_goals
    cases e with
    | nil =>
      rw [List.nil_append] at he
      exact ⟨by simp, by simp_all⟩
    | cons d e =>
      rw [List.cons_append] at he
      obtain ⟨rfl, -⟩ := List.cons.inj he
      simp at ha hb

/-- What holds no `c` and begins a text lies in front of any `c`. -/
theorem prefix_of_notMem {c : Char} {p a s : Text} (hp : c ∉ p) (h : p <+: a ++ c :: s) : p <+: a := by
  obtain ⟨q, hq⟩ := h
  rcases List.append_eq_append_iff.mp hq with ⟨e, rfl, -⟩ | ⟨e, rfl, he⟩
  · exact List.prefix_append p e
  · cases e with
    | nil => simp
    | cons d e =>
      rw [List.cons_append] at he
      obtain ⟨rfl, -⟩ := List.cons.inj he
      simp at hp

/-- What holds no `c` lies on one side of it. -/
theorem infix_or_of_notMem {c : Char} {p a s : Text} (hp : c ∉ p) (h : p <:+: a ++ c :: s) :
    p <:+: a ∨ p <:+: s := by
  obtain ⟨u, v, huv⟩ := h
  rw [List.append_assoc] at huv
  rcases List.append_eq_append_iff.mp huv with ⟨e, rfl, he⟩ | ⟨e, rfl, he⟩
  · exact .inl ((prefix_of_notMem hp ⟨v, he⟩).isInfix.trans (List.suffix_append u e).isInfix)
  · cases e with
    | nil =>
      rw [List.nil_append] at he
      cases p with
      | nil => exact .inl (List.nil_infix)
      | cons d p =>
        rw [List.cons_append] at he
        obtain ⟨rfl, -⟩ := List.cons.inj he
        simp at hp
    | cons d e =>
      rw [List.cons_append] at he
      obtain ⟨-, rfl⟩ := List.cons.inj he
      exact .inr ⟨e, v, List.append_assoc ..⟩

/-- A token without `c` is found or not in front of the first `c`. -/
theorem after?_append_cons {c : Char} {token : Text} (h : c ∉ token) (p s : Text) :
    after? token (p ++ c :: s) = (after? token p).map (· ++ c :: s) := by
  cases hp : after? token p with
  | some rest => rw [after?_eq_some_iff.mp hp, List.append_assoc, after?_eq_some_iff.mpr rfl, Option.map_some]
  | none =>
    rw [Option.map_none, ← Option.not_isSome_iff_eq_none]
    intro hsome
    obtain ⟨rest, hrest⟩ := Option.isSome_iff_exists.mp hsome
    obtain ⟨q, rfl⟩ := prefix_of_notMem h ⟨rest, (after?_eq_some_iff.mp hrest).symm⟩
    rw [after?_eq_some_iff.mpr rfl] at hp
    cases hp

/-- The text from its first `@` on. -/
def fromAt (s : Text) : Text :=
  s.dropWhile (· != '@')

theorem fromAt_append {a : Text} (h : '@' ∉ a) (s : Text) : fromAt (a ++ s) = fromAt s := by
  refine List.dropWhile_append_of_pos fun c hc => bne_iff_ne.mpr ?_
  rintro rfl
  exact h hc

theorem fromAt_at (s : Text) : fromAt ('@' :: s) = '@' :: s := rfl

theorem exists_front (s : Text) : ∃ front, '@' ∉ front ∧ s = front ++ fromAt s := by
  refine ⟨s.takeWhile (· != '@'), fun h => ?_, List.takeWhile_append_dropWhile.symm⟩
  have := List.all_eq_true.mp (List.all_takeWhile (p := (· != '@')) (l := s)) _ h
  exact absurd this (by decide)

/-! ### The last mark -/

/-- A character that can end a directive: the `@` of a closing word, or the `;`. -/
def isMark (c : Char) : Bool :=
  c == '@' || c == ';'

/-- The last such character of a text. -/
def lastMark (s : Text) : Option Char :=
  (s.filter isMark).getLast?

theorem lastMark_append_cons {c : Char} {t : Text} (hc : isMark c = true) (hat : '@' ∉ t)
    (hsemi : ';' ∉ t) (s : Text) : lastMark (s ++ c :: t) = some c := by
  have hbehind : t.filter isMark = [] := by
    rw [List.filter_eq_nil_iff]
    intro d hd
    have hdat : d ≠ '@' := fun he => hat (he ▸ hd)
    have hdsemi : d ≠ ';' := fun he => hsemi (he ▸ hd)
    simp [isMark, hdat, hdsemi]
  rw [lastMark, List.filter_append, List.filter_cons_of_pos hc, hbehind]
  exact List.getLast?_concat

end Directives.Text
