import Directives.Directive
import Directives.Proofs.Json.Escapes
import Directives.Proofs.Json.Value
import Directives.Proofs.Rereading

/-! How long a parameter is.

Nothing that is read is longer than what it is read from: a JSON string not than
its escapes, a text not than its lines, the body of a directive not than the
directive. So a text that is the parameter of a directive is `Text.Shorter` than the
text that the directive stands in, in characters and in bytes (`Token.shorter_content`,
`Parameter.shorter_of_decode`), and going down from parameter to parameter comes to an
end. -/
namespace Directives

open Text (Shorter)

namespace Read

/-! ### Strings of JSON -/

theorem shorter_string? {s t rest : Text} (h : string? s = some (t, rest)) : Shorter t s := by
  induction s using string?.induct generalizing t rest with
  | case1 s c behind hchar _ ih =>
    rw [string?] at h
    split at h
    next c' behind' hchar' =>
      rw [hchar] at hchar'
      cases hchar'
      obtain ⟨⟨cs, last⟩, hcs, heq⟩ := Option.map_eq_some_iff.mp h
      cases heq
      have hlength := length_lt_of_char? hchar
      have hbytes := byteSize_of_char? hchar
      have hbehind := ih hcs
      constructor
      · have hshort := hbehind.length
        rw [List.length_cons]
        omega
      · have hshort := hbehind.byteSize
        rw [Text.byteSize_cons]
        omega
    next hnone =>
      rw [hchar] at hnone
      cases hnone
  | case2 s hnone =>
    rw [string?] at h
    split at h
    next hchar =>
      rw [hnone] at hchar
      cases hchar
    next =>
      obtain ⟨last, hquote, heq⟩ := Option.map_eq_some_iff.mp h
      cases heq
      rw [Text.after?_eq_some_iff.mp hquote]
      exact Text.shorter_of_sublist (List.nil_sublist rest) (Text.shorter_cons '"' rest)

theorem shorter_lexeme? {s t rest : Text} (h : lexeme? s = some (.string t, rest)) : Shorter t s := by
  unfold lexeme? at h
  split at h
  case h_7 behind =>
    obtain ⟨⟨cs, last⟩, hcs, heq⟩ := Option.map_eq_some_iff.mp h
    cases heq
    exact (shorter_string? hcs).trans (Text.shorter_cons '"' behind)
  all_goals simp at h

theorem lexeme?_ne_text {s t rest : Text} : lexeme? s ≠ some (.scalar (.text t), rest) := by
  intro h
  unfold lexeme? at h
  split at h
  all_goals simp at h

namespace Machine

/-- The machine is done or has a container open, and its value is no text. -/
structure NoText (m : Machine) : Prop where
  inside : m.frames = [] → m.expects = .nothing
  value : ∀ t, m.value ≠ .text t

theorem noText_open (expects : Expects) (frame : Frame) (frames : List Frame) :
    NoText ⟨expects, frame :: frames, .null⟩ where
  inside := nofun
  value := nofun

theorem noText_deliver {frames : List Frame} {v : Value} (h : frames = [] → ∀ t, v ≠ .text t) :
    NoText (deliver frames v) := by
  cases frames with
  | nil => exact ⟨fun _ => rfl, h rfl⟩
  | cons frame frames => cases frame <;> exact noText_open ..

/-- A machine that is done takes no lexeme. -/
theorem step_nothing {m : Machine} (h : m.expects = .nothing) (l : Lexeme) : m.step l = none := by
  cases l <;> simp [step, expectsValue, h]

/-- Inside a container no value becomes the value of the machine but the container's. -/
theorem NoText.step {m m' : Machine} {l : Lexeme} (hm : NoText m) (h : m.step l = some m') :
    NoText m' := by
  by_cases hframes : m.frames = []
  · rw [step_nothing (hm.inside hframes)] at h
    cases h
  · have hdelivered : ∀ v, NoText (deliver m.frames v) :=
      fun v => noText_deliver fun hnil => absurd hnil hframes
    unfold Machine.step at h
    cases l with
    | openArray | openObject =>
      simp only [opened, Option.ite_none_right_eq_some, Option.some.injEq] at h
      obtain ⟨-, -, rfl⟩ := h
      exact noText_open ..
    | scalar v =>
      simp only [Option.ite_none_right_eq_some, Option.some.injEq] at h
      obtain ⟨-, rfl⟩ := h
      exact hdelivered v
    | string s =>
      simp only at h
      split at h
      · cases h
        exact hdelivered (.text s)
      · split at h
        · split at h
          · cases h
            exact noText_open ..
          · cases h
        · cases h
    | colon =>
      simp only [Option.ite_none_right_eq_some, Option.some.injEq] at h
      obtain ⟨-, rfl⟩ := h
      exact ⟨fun hnil => absurd hnil hframes, hm.value⟩
    | comma =>
      simp only [Option.ite_none_right_eq_some] at h
      obtain ⟨-, h⟩ := h
      split at h
      · cases h
        exact ⟨fun hnil => absurd hnil hframes, hm.value⟩
      · cases h
        exact ⟨fun hnil => absurd hnil hframes, hm.value⟩
      · cases h
    | closeArray | closeObject =>
      simp only [Option.ite_none_right_eq_some] at h
      obtain ⟨-, h⟩ := h
      split at h
      · cases h
        exact noText_deliver fun _ => nofun
      · cases h

theorem NoText.run {m m' : Machine} {ls : List Lexeme} (hm : NoText m) (h : m.run ls = some m') :
    NoText m' := by
  induction ls generalizing m with
  | nil =>
    cases h
    exact hm
  | cons l ls ih =>
    obtain ⟨next, hstep, hrun⟩ := Option.bind_eq_some_iff.mp h
    exact ih (hm.step hstep) hrun

/-- A run from the start that has a text for its value has read the string that it is. -/
theorem string_of_run {l : Lexeme} {ls : List Lexeme} {m : Machine} {t : Text}
    (h : start.run (l :: ls) = some m) (hvalue : m.value = .text t) :
    l = .string t ∨ ∃ s, l = .scalar (.text s) := by
  obtain ⟨next, hstep, hrun⟩ := Option.bind_eq_some_iff.mp h
  cases l with
  | string s =>
    cases hstep
    cases ls with
    | nil =>
      cases hrun
      cases hvalue
      exact .inl rfl
    | cons l ls =>
      rw [Machine.run, show deliver start.frames (.text s) = ⟨.nothing, [], .text s⟩ from rfl,
        step_nothing rfl] at hrun
      cases hrun
  | scalar v =>
    cases hstep
    by_cases hv : ∃ s, v = .text s
    · obtain ⟨s, rfl⟩ := hv
      exact .inr ⟨s, rfl⟩
    · have hnext : NoText (deliver start.frames v) := noText_deliver fun _ => not_exists.mp hv
      exact absurd hvalue ((hnext.run hrun).value t)
  | openArray | openObject =>
    cases hstep
    exact absurd hvalue (((noText_open ..).run hrun).value t)
  | comma | colon | closeArray | closeObject => cases hstep

end Machine

/-- A text that JSON writes is shorter than its JSON. -/
theorem shorter_ofJson? {s t : Text} (h : Value.ofJson? s = some (.text t)) : Shorter t s := by
  simp only [Value.ofJson?, Option.bind_eq_bind, Option.bind_eq_some_iff,
    Option.ite_none_right_eq_some, Option.some.injEq] at h
  obtain ⟨lexemes, hlexemes, m, hrun, hdone, hvalue⟩ := h
  unfold lexemes? at hlexemes
  split at hlexemes
  next =>
    cases hlexemes
    cases hrun
    cases hdone
  next =>
    split at hlexemes
    next => cases hlexemes
    next =>
      simp only [Option.bind_eq_bind, Option.bind_eq_some_iff, Option.some.injEq] at hlexemes
      obtain ⟨⟨first, rest⟩, hfirst, others, -, rfl⟩ := hlexemes
      rcases Machine.string_of_run hrun hvalue with rfl | ⟨s, rfl⟩
      · exact (shorter_lexeme? hfirst).trans_sublist (List.dropWhile_sublist _)
      · exact absurd hfirst lexeme?_ne_text

end Read

/-! ### Parameters -/

namespace Parameter

theorem dropIndent_sublist (atStart : Bool) (s : Text) : (dropIndent atStart s).Sublist s := by
  induction s generalizing atStart with
  | nil => exact .refl _
  | cons c s ih =>
    unfold dropIndent
    split
    · exact (ih true).cons c
    · exact (ih _).cons_cons c

theorem dropTrailing_sublist (s : Text) : (dropTrailing s).Sublist s := by
  induction s with
  | nil => exact .refl _
  | cons c s ih =>
    unfold dropTrailing
    simp only
    split
    · exact ih.cons c
    · exact ih.cons_cons c

/-- What is written in a shorter text is a parameter in a shorter text. -/
theorem shorter_of_decode {content t s : Text} (h : decode content = .text t) (hcontent : Shorter content s) :
    Shorter t s := by
  unfold decode at h
  cases hjson : Value.ofJson? content with
  | some v =>
    rw [hjson, Option.getD_some] at h
    subst h
    exact (Read.shorter_ofJson? hjson).trans hcontent
  | none =>
    rw [hjson, Option.getD_none] at h
    cases h
    exact Text.shorter_of_sublist ((dropTrailing_sublist _).trans (dropIndent_sublist true content)) hcontent

end Parameter

/-! ### Bodies -/

namespace Text

theorem prefix_trimEnd (s : Text) : trimEnd s <+: s := by
  obtain ⟨b, -, hs⟩ := exists_blank_trimEnd s
  exact ⟨b, hs.symm⟩

theorem infix_trim (s : Text) : trim s <:+: s :=
  (prefix_trimEnd _).isInfix.trans (List.dropWhile_suffix _).isInfix

end Text

theorem Reading.shorter_of_open? {r : Reading} {s name rest : Text} (h : r.open? s = some (name, rest)) :
    Shorter rest s := by
  obtain ⟨-, markers, -, rfl⟩ := r.open?_eq_some_iff.mp h
  have hbehind : rest.Sublist (name ++ (r.colons ++ rest)) :=
    (List.sublist_append_right r.colons rest).trans (List.sublist_append_right name _)
  exact (Text.shorter_of_sublist hbehind (Text.shorter_cons '@' _)).trans_sublist (List.sublist_append_right ..)

/-- A body stands in the text that is searched for it. -/
theorem Body.infix_find {α : Type} {units : Text → Prop} {stop : Text → Option α}
    {search : (Text → Option α) → Text → Option (Text × α)} {s : Text} {parts : Body.Parts α}
    (hsearch : ∀ {t body a}, search stop t = some (body, a) →
      ∃ rest, t = body ++ rest ∧ Body.Ends units stop body rest a)
    (h : Body.find search stop s = some parts) : parts.body <:+: s := by
  obtain ⟨-, -, rest, rfl, -⟩ := Body.find_sound hsearch h
  exact ⟨_, _, rfl⟩

/-- A directive is longer than its body. -/
theorem Whole.shorter_body {s : Text} {whole : Whole} (h : Whole.ofText? s = some whole) :
    Shorter whole.body s := by
  unfold Whole.ofText? at h
  split at h
  next name body hblock =>
    cases h
    simp only [Block.match?, Option.bind_eq_bind, Option.bind_eq_some_iff, Option.some.injEq] at hblock
    obtain ⟨⟨name, rest⟩, hopen, parts, hfind, heq⟩ := hblock
    cases heq
    have hbody : parts.body <:+: rest := Body.infix_find Body.shortest_eq_some hfind
    exact Text.shorter_of_sublist hbody.sublist (Reading.shorter_of_open? (r := Block.reading) hopen)
  next =>
    obtain ⟨⟨name, body⟩, hline, rfl⟩ := Option.map_eq_some_iff.mp h
    simp only [Line.match?, Option.bind_eq_bind, Option.bind_eq_some_iff, Option.some.injEq] at hline
    obtain ⟨⟨name, rest⟩, hopen, parts, hfind, heq⟩ := hline
    cases heq
    have hbody : parts.body <:+: rest := Body.infix_find Body.shortest_eq_some hfind
    exact Text.shorter_of_sublist hbody.sublist (Reading.shorter_of_open? (r := Line.reading) hopen)

namespace Token

theorem shorter_ofOccurrence {written : Text} {start : Nat} {o : Occurrence} {token : Token}
    (h : ofOccurrence written start o = .ok token) : Shorter token.content written := by
  unfold ofOccurrence at h
  simp only at h
  split at h
  next whole hwhole =>
    cases h
    exact (Whole.shorter_body hwhole).trans_sublist (Text.infix_trim written).sublist
  next => cases h

/-- A text is longer than what its directives have inside. -/
theorem shorter_content {stripTabs : Bool} {s : Text} {tokens : List Token} {token : Token}
    (h : ofText stripTabs s = .ok tokens) (hmem : token ∈ tokens) : Shorter token.content s := by
  have hfound : ∀ {start : Nat} {o : Occurrence}, Located s start o → o.text.Sublist s := by
    rintro start o ⟨before, after, rfl, -⟩
    exact (List.infix_append before o.text after).sublist
  obtain ⟨blocks, lines, rfl, hblocks, hlines⟩ := ofText_eq_ok_iff.mp h
  rcases List.mem_append.mp hmem with hmem | hmem
  · obtain ⟨found, hin, hok⟩ := exists_of_forall₂ hblocks hmem
    have hwithout : (if stripTabs then Text.withoutTabs found.2.text else found.2.text).Sublist found.2.text := by
      split
      · exact List.filter_sublist
      · exact .refl _
    exact (shorter_ofOccurrence hok).trans_sublist
      (hwithout.trans (hfound (exists_stands (r := Block.reading) hin).1))
  · obtain ⟨found, hin, hok⟩ := exists_of_forall₂ hlines hmem
    exact (shorter_ofOccurrence hok).trans_sublist (hfound (exists_stands (r := Line.reading) hin).1)

end Token

end Directives
