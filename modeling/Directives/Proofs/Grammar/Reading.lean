import Directives.Grammar.Scan
import Directives.Proofs.Grammar.Body
import Directives.Proofs.Grammar.Pieces

/-! How a directive of either form is read off the start of a text.

The two forms differ in the markers in front of the `@`, in the colons behind the
name and in where the body is found: a `Reading`. What is read then stands there
(`at?_eq_some_iff`). Markers hold no `@`, so that what stands in front of the first
`@` of a text decides only where the directive begins (`open?_append`). -/
namespace Directives

open Text (AllBlank)

namespace Occurrence

/-- What stands between the opener and the `@` of the closer. -/
def inside (o : Occurrence) : Text :=
  o.blank ++ o.body ++ o.closer.takeWhile (· != '@')

theorem ofParts_eq (o : Occurrence) (rest : Text) :
    ofParts (o.text ++ rest) o.name (o.blank ++ o.body ++ o.closer ++ rest) ⟨o.blank, o.body, rest⟩ = o := by
  obtain ⟨opener, name, blank, body, closer⟩ := o
  simp only [ofParts, text, List.length_append, mk.injEq, true_and]
  constructor
  · have hlen : opener.length + blank.length + body.length + closer.length + rest.length -
        (blank.length + body.length + closer.length + rest.length) = opener.length := by omega
    rw [hlen, List.append_assoc, List.append_assoc, List.append_assoc, List.take_left]
  · have htail : List.drop (blank.length + body.length) (blank ++ body ++ closer ++ rest) = closer ++ rest := by
      rw [← List.length_append, List.append_assoc, List.drop_left]
    have hlen : closer.length + rest.length - rest.length = closer.length := by omega
    rw [htail, List.length_append, hlen, List.take_left]

end Occurrence

/-- How a form of directive is read: the markers in front of its `@`, the colons
behind its name, and where its body is found behind them. -/
structure Reading where
  opening : Text → Prop
  colons : Text
  open? : Text → Option (Text × Text)
  find : Text → Text → Option (Body.Parts Text)
  at_notMem : ∀ {markers}, opening markers → '@' ∉ markers
  open?_eq_some_iff : ∀ {s name rest}, open? s = some (name, rest) ↔ isName name = true ∧
    ∃ markers, opening markers ∧ s = markers ++ '@' :: (name ++ (colons ++ rest))
  opening_nil : opening []
  find_sound : ∀ {name s parts}, find name s = some parts → AllBlank parts.blank ∧ parts.body ≠ [] ∧
    ∃ closer, s = parts.blank ++ parts.body ++ closer ++ parts.closed

namespace Reading

variable (r : Reading)

/-- The directive at the start of the text. -/
def at? (s : Text) : Option Occurrence := do
  let (name, rest) ← r.open? s
  let parts ← r.find name rest
  some (.ofParts s name rest parts)

/-- Where no opener is read, or no body behind it, there is no directive. -/
theorem at?_eq_none {s : Text}
    (h : ∀ name rest, r.open? s = some (name, rest) → r.find name rest = none) : r.at? s = none := by
  cases hopen : r.open? s with
  | none => simp only [at?, hopen, Option.bind_eq_bind, Option.bind_none]
  | some found =>
    simp only [at?, hopen, h found.1 found.2 hopen, Option.bind_eq_bind, Option.bind_some,
      Option.bind_none]

/-- A directive, in its parts, in front of `rest`. -/
structure Stands (o : Occurrence) (rest : Text) : Prop where
  named : isName o.name = true
  opener : ∃ markers, r.opening markers ∧ o.opener = markers ++ '@' :: (o.name ++ r.colons)
  found : r.find o.name (o.blank ++ o.body ++ o.closer ++ rest) = some ⟨o.blank, o.body, rest⟩

variable {r} in
/-- The opener of a directive that stands is read, and all of the rest is left. -/
theorem Stands.open?_eq {o : Occurrence} {rest : Text} (h : r.Stands o rest) :
    r.open? (o.text ++ rest) = some (o.name, o.blank ++ o.body ++ o.closer ++ rest) := by
  obtain ⟨markers, hm, hopener⟩ := h.opener
  refine r.open?_eq_some_iff.mpr ⟨h.named, markers, hm, ?_⟩
  simp [Occurrence.text, hopener]

/-- What is found at the start of a text is a directive that stands there. -/
theorem at?_eq_some_iff {s : Text} {o : Occurrence} :
    r.at? s = some o ↔ ∃ rest, s = o.text ++ rest ∧ r.Stands o rest := by
  constructor
  · intro h
    simp only [at?, Option.bind_eq_bind, Option.bind_eq_some_iff, Option.some.injEq] at h
    obtain ⟨⟨name, t⟩, hopen, parts, hfind, rfl⟩ := h
    obtain ⟨hname, markers, hm, rfl⟩ := r.open?_eq_some_iff.mp hopen
    obtain ⟨-, -, closer, rfl⟩ := r.find_sound hfind
    let o : Occurrence := ⟨markers ++ '@' :: (name ++ r.colons), name, parts.blank, parts.body, closer⟩
    have hs : markers ++
        '@' :: (name ++ (r.colons ++ (parts.blank ++ parts.body ++ closer ++ parts.closed))) =
          o.text ++ parts.closed := by
      simp [o, Occurrence.text]
    have ho : Occurrence.ofParts (o.text ++ parts.closed) name
        (parts.blank ++ parts.body ++ closer ++ parts.closed) parts = o :=
      Occurrence.ofParts_eq o parts.closed
    rw [hs, ho]
    exact ⟨parts.closed, rfl, hname, ⟨markers, hm, rfl⟩, hfind⟩
  · rintro ⟨rest, rfl, h⟩
    simp only [at?, h.open?_eq, Option.bind_eq_bind, Option.bind_some, h.found, Occurrence.ofParts_eq]

theorem isSome_at?_iff {s : Text} :
    (r.at? s).isSome = true ↔ ∃ o rest, s = o.text ++ rest ∧ r.Stands o rest := by
  simp only [Option.isSome_iff_exists, r.at?_eq_some_iff]

theorem at?_eq_none_iff {s : Text} :
    r.at? s = none ↔ ∀ o rest, s = o.text ++ rest → ¬ r.Stands o rest := by
  rw [← Option.not_isSome_iff_eq_none, r.isSome_at?_iff]
  simp only [not_exists, not_and]

variable {r}

theorem Stands.body_ne_nil {o : Occurrence} {rest : Text} (h : r.Stands o rest) : o.body ≠ [] :=
  (r.find_sound h.found).2.1

theorem Stands.blank_allBlank {o : Occurrence} {rest : Text} (h : r.Stands o rest) :
    AllBlank o.blank :=
  (r.find_sound h.found).1

theorem Stands.text_ne_nil {o : Occurrence} {rest : Text} (h : r.Stands o rest) : o.text ≠ [] := by
  simp [Occurrence.text, h.body_ne_nil]

theorem at?_nil : r.at? [] = none := by
  rw [at?_eq_none_iff]
  intro o rest hnil hstands
  exact hstands.text_ne_nil (List.append_eq_nil_iff.mp hnil.symm).1

theorem Stands.not_allBlank {o : Occurrence} {rest : Text} (h : r.Stands o rest) :
    ¬ AllBlank o.text := by
  obtain ⟨markers, -, hopener⟩ := h.opener
  intro hblank
  refine hblank.notMem (c := '@') (by decide) ?_
  simp [Occurrence.text, hopener]

/-- In front of the first `@` nothing is read but markers. -/
theorem open?_append {front : Text} (hfront : '@' ∉ front) (t : Text) :
    r.open? (front ++ '@' :: t) = none ∨ r.open? (front ++ '@' :: t) = r.open? ('@' :: t) := by
  cases h : r.open? (front ++ '@' :: t) with
  | none => exact .inl rfl
  | some found =>
    right
    obtain ⟨hname, markers, hm, hs⟩ := r.open?_eq_some_iff.mp h
    obtain ⟨-, rfl⟩ := Text.append_cons_inj hfront (r.at_notMem hm) hs
    exact (r.open?_eq_some_iff.mpr ⟨hname, [], r.opening_nil, rfl⟩).symm

end Reading
end Directives
