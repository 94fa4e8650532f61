import Mathlib.Data.List.Forall2

/-! Actions that may fail, one after the other.

Two of them succeed where both do (`bind_eq_ok_iff`). A list is gone through step by step:
where every step succeeds the whole does, with the steps' results in order
(`mapM_ok`, `mapM_eq_ok_iff`, `forM_eq_ok_iff`); else it fails with the error of the first
step that fails (`mapM_eq_error_iff`). -/
namespace Directives

variable {α β ε : Type} {f : α → Except ε β} {l : List α}

/-- A step and what comes after it succeed where both do. -/
theorem bind_eq_ok_iff {x : Except ε α} {f : α → Except ε β} {b : β} :
    (x >>= f) = .ok b ↔ ∃ a, x = .ok a ∧ f a = .ok b := by
  cases x with
  | error e => exact ⟨nofun, nofun⟩
  | ok a => exact ⟨fun h => ⟨a, rfl, h⟩, fun ⟨_, ha, h⟩ => by cases ha; exact h⟩

theorem check_bind_eq_ok_iff {x : Except ε Unit} {f : Unit → Except ε β} {b : β} :
    (x >>= f) = .ok b ↔ x = .ok () ∧ f () = .ok b :=
  bind_eq_ok_iff.trans ⟨fun ⟨_, h⟩ => h, fun h => ⟨(), h⟩⟩

theorem map_eq_ok_iff {x : Except ε α} {f : α → β} {b : β} : f <$> x = .ok b ↔ ∃ a, x = .ok a ∧ f a = b := by
  cases x with
  | error e => exact ⟨nofun, nofun⟩
  | ok a => exact ⟨fun h => ⟨a, rfl, Except.ok.inj h⟩, fun ⟨_, ha, h⟩ => by cases ha; exact congrArg _ h⟩

theorem mapError_eq_ok_iff {ε' : Type} {x : Except ε α} {g : ε → ε'} {a : α} :
    x.mapError g = .ok a ↔ x = .ok a := by
  cases x with
  | error e => exact ⟨nofun, nofun⟩
  | ok b => exact ⟨fun h => by cases h; rfl, fun h => by cases h; rfl⟩

/-- Where every step succeeds the whole does, and each result answers its step. -/
theorem mapM_ok {R : α → β → Prop} (h : ∀ a ∈ l, ∃ b, f a = .ok b ∧ R a b) :
    ∃ bs, l.mapM f = .ok bs ∧ List.Forall₂ R l bs := by
  induction l with
  | nil => exact ⟨[], rfl, .nil⟩
  | cons a l ih =>
    obtain ⟨b, hb, hab⟩ := h a (List.mem_cons_self ..)
    obtain ⟨bs, hbs, hall⟩ := ih fun c hc => h c (List.mem_cons_of_mem a hc)
    refine ⟨b :: bs, ?_, .cons hab hall⟩
    rw [List.mapM_cons, hb, hbs]
    rfl

/-- The whole succeeds with what the steps succeed with, one by one. -/
theorem mapM_eq_ok_iff {bs : List β} : l.mapM f = .ok bs ↔ List.Forall₂ (fun a b => f a = .ok b) l bs := by
  induction l generalizing bs with
  | nil =>
    rw [List.mapM_nil, List.forall₂_nil_left_iff]
    exact ⟨fun h => by cases h; rfl, fun h => by rw [h]; rfl⟩
  | cons a l ih =>
    rw [List.mapM_cons, List.forall₂_cons_left_iff, bind_eq_ok_iff]
    constructor
    · rintro ⟨b, hb, h⟩
      obtain ⟨rest, hrest, h⟩ := bind_eq_ok_iff.mp h
      cases h
      exact ⟨b, rest, hb, ih.mp hrest, rfl⟩
    · rintro ⟨b, rest, hb, hrest, rfl⟩
      exact ⟨b, hb, bind_eq_ok_iff.mpr ⟨rest, ih.mpr hrest, rfl⟩⟩

/-- Checks pass where each one does. -/
theorem forM_eq_ok_iff {check : α → Except ε Unit} : l.forM check = .ok () ↔ ∀ a ∈ l, check a = .ok () := by
  induction l with
  | nil => exact ⟨fun _ => nofun, fun _ => rfl⟩
  | cons a l ih =>
    rw [show (a :: l).forM check = (check a >>= fun _ => l.forM check) from rfl, check_bind_eq_ok_iff,
      List.forall_mem_cons, ih]

/-- Each result answers some step. -/
theorem exists_of_forall₂ {R : α → β → Prop} {bs : List β} (h : List.Forall₂ R l bs) {b : β}
    (hb : b ∈ bs) : ∃ a ∈ l, R a b := by
  induction h with
  | nil => cases hb
  | @cons a b' l bs hab _ ih =>
    rcases List.mem_cons.mp hb with rfl | hb
    · exact ⟨a, List.mem_cons_self .., hab⟩
    · obtain ⟨a', ha', hR⟩ := ih hb
      exact ⟨a', List.mem_cons_of_mem a ha', hR⟩

/-- What a step has in common with its result is the same along both lists. -/
theorem map_eq_of_forall₂ {γ : Type} {R : α → β → Prop} {g : α → γ} {k : β → γ} {bs : List β}
    (h : List.Forall₂ R l bs) (hR : ∀ a b, R a b → g a = k b) : l.map g = bs.map k := by
  induction h with
  | nil => rfl
  | cons hab _ ih => rw [List.map_cons, List.map_cons, hR _ _ hab, ih]

/-- Results of a list in two parts come in two parts. -/
theorem exists_append_of_forall₂ {R : α → β → Prop} {m : List α} {bs : List β}
    (h : List.Forall₂ R (l ++ m) bs) :
    ∃ first last, bs = first ++ last ∧ List.Forall₂ R l first ∧ List.Forall₂ R m last := by
  induction l generalizing bs with
  | nil => exact ⟨[], bs, rfl, .nil, h⟩
  | cons a l ih =>
    cases h with
    | cons hab hrest =>
      obtain ⟨first, last, rfl, hfirst, hlast⟩ := ih hrest
      exact ⟨_ :: first, last, rfl, .cons hab hfirst, hlast⟩

/-- With `bad` the steps that fail, the first of them is the whole's error. -/
theorem mapM_eq_error_iff (bad : α → Bool) (error : α → ε)
    (hbad : ∀ a ∈ l, bad a = true → f a = .error (error a))
    (hgood : ∀ a ∈ l, bad a = false → ∃ b, f a = .ok b) {e : ε} :
    l.mapM f = .error e ↔ ∃ a, l.find? bad = some a ∧ e = error a := by
  induction l with
  | nil =>
    rw [List.mapM_nil]
    exact ⟨fun h => (nomatch h), fun ⟨_, h, _⟩ => nomatch h⟩
  | cons a l ih =>
    rw [List.mapM_cons, List.find?_cons]
    cases ha : bad a with
    | true =>
      rw [hbad a (List.mem_cons_self ..) ha]
      constructor
      · intro h
        cases h
        exact ⟨a, rfl, rfl⟩
      · rintro ⟨a', h, rfl⟩
        cases h
        rfl
    | false =>
      obtain ⟨b, hb⟩ := hgood a (List.mem_cons_self ..) ha
      rw [hb, ← ih (fun c hc => hbad c (List.mem_cons_of_mem a hc))
        (fun c hc => hgood c (List.mem_cons_of_mem a hc))]
      cases l.mapM f with
      | error e' => exact ⟨fun h => by cases h; rfl, fun h => by cases h; rfl⟩
      | ok bs => exact ⟨fun h => (nomatch h), fun h => nomatch h⟩

end Directives
