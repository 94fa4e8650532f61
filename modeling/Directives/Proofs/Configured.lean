import Directives.Proofs.Loading
import Directives.Proofs.Naming

/-! The keys of a configuration and the names that call them.

A key is a command's name, hyphenated or in camel case. The one name that can call it is
its hyphenated form, which is a name where no piece of it is a single character
(`Config.exists_name_iff`). Two keys may stand for one command, and then the later one
is called (`Config.exists_name_of_key`). -/
namespace Directives

/-! ### The hyphenated form of a key -/

theorem mem_hyphenated {s : Text} {c : Char} (h : c ∈ hyphenated s) :
    c = '-' ∨ c.isLower = true ∨ c ∈ s ∧ c.isUpper = false := by
  obtain ⟨d, hd, hmem⟩ := List.mem_flatMap.mp h
  cases hupper : d.isUpper with
  | true =>
    rw [hupper, if_pos rfl] at hmem
    rcases List.mem_cons.mp hmem with rfl | hmem
    · exact .inl rfl
    · exact .inr (.inl (List.mem_singleton.mp hmem ▸ (Name.lower_of_isUpper hupper).1))
  | false =>
    rw [hupper, if_neg Bool.false_ne_true] at hmem
    rw [List.mem_singleton.mp hmem]
    exact .inr (.inr ⟨hd, hupper⟩)

theorem BeginsLower.hyphenated {s : Text} (h : BeginsLower s) : BeginsLower (hyphenated s) := by
  obtain ⟨c, t, rfl, hc⟩ := h
  rw [hyphenated_cons, Name.not_isUpper_of_isLower hc]
  exact beginsLower_cons.mpr hc

theorem Lettered.hyphenated {s : Text} (h : Lettered s) : Lettered (hyphenated s) := by
  induction h with
  | nil => exact .nil
  | @cons c s hc _ ih =>
    rw [hyphenated_cons]
    cases hupper : c.isUpper with
    | true => exact .hyphen (Name.lower_of_isUpper hupper).1 ih
    | false => exact .cons hc ih
  | @hyphen c s hc _ ih =>
    rw [hyphenated_cons, hyphenated_cons, Name.not_isUpper_of_isLower hc]
    exact .hyphen hc ih

namespace Config

/-- Cut at its hyphens and in front of its capitals, a command's name is the name of a directive
if no piece is a single character. -/
theorem isName_hyphenated {key : Text} (h : isCommandName key = true)
    (hparts : ∀ part ∈ Text.splitOn '-' (hyphenated key), 2 ≤ part.length) :
    isName (hyphenated key) = true := by
  obtain ⟨hbegins, hlettered, -, hchars⟩ := isCommandName_iff.mp h
  refine isName_iff.mpr
    ⟨isCommandName_iff.mpr ⟨hbegins.hyphenated, hlettered.hyphenated, hparts, ?_⟩, ?_⟩
  · intro c hc hne
    rcases mem_hyphenated hc with rfl | hlower | ⟨hmem, -⟩
    · exact absurd rfl hne
    · exact Name.isAlphanum_iff.mpr (.inr (.inl hlower))
    · exact hchars c hmem hne
  · intro c hc
    rcases mem_hyphenated hc with rfl | hlower | ⟨-, hsmall⟩
    · decide
    · exact Name.not_isUpper_of_isLower hlower
    · exact hsmall

/-- A key is called by no other name than its hyphenated form. -/
theorem eq_hyphenated {key n : Text} (h : isCommandName key = true) (hn : isName n = true)
    (hsame : camelCase n = camelCase key) : n = hyphenated key := by
  rw [← hyphenated_camelCase_of_isName hn, hsame, hyphenated_camelCase (isCommandName_iff.mp h).2.1]

/-- A command's name is called by some name exactly where no piece of its hyphenated form is a
single character. -/
theorem exists_name_iff {key : Text} (h : isCommandName key = true) :
    (∃ n, isName n = true ∧ camelCase n = camelCase key) ↔
      ∀ part ∈ Text.splitOn '-' (hyphenated key), 2 ≤ part.length := by
  constructor
  · rintro ⟨n, hn, hsame⟩
    rw [eq_hyphenated h hn hsame] at hn
    exact (isCommandName_iff.mp (isName_iff.mp hn).1).2.2.1
  · exact fun hparts => ⟨hyphenated key, isName_hyphenated h hparts, camelCase_hyphenated key⟩

/-- No name calls a key with a single letter behind its first piece. -/
example : isCommandName "fooB".toList = true ∧
    ¬ ∃ n, isName n = true ∧ camelCase n = camelCase "fooB".toList :=
  ⟨by decide, fun h => absurd ((exists_name_iff (by decide)).mp h) (by decide)⟩

/-! ### Configurations -/

theorem isCommandName_of_validate {c : Config} (h : c.validate = .ok ()) {key : Text} {i : Invocation}
    (hmem : (key, i) ∈ c.commands) : isCommandName key = true :=
  (validate_eq_ok_iff.mp h).isCommandName (key, i) hmem

/-- **Keys are called by one name each, and of several that stand for one command the last is
called.** Of a valid configuration, a key whose pieces are no single characters has one name that
calls it. What the name is resolved to is the program of the last key that has the camel case of
this one, whatever starts it: its own program, where no later key has it. -/
theorem exists_name_of_key {σ : Type} (start : Program.Start σ) {c : Config} {key : Text}
    {i : Invocation} (hvalid : c.validate = .ok ()) (hmem : (key, i) ∈ c.commands)
    (hparts : ∀ part ∈ Text.splitOn '-' (hyphenated key), 2 ≤ part.length) :
    ∃ n, isName n = true ∧ camelCase n = camelCase key ∧
      (∀ m, isName m = true → camelCase m = camelCase key → m = n) ∧
      (∃ last j, (c.commands.filter (camelCase ·.1 = camelCase key)).getLast? = some (last, j) ∧
        (Registry.ofPrograms start c.commands).resolve? (camelCase n) = some (j.command start last)) ∧
      ∀ before after, c.commands = before ++ (key, i) :: after →
        (∀ later ∈ after, camelCase later.1 ≠ camelCase key) →
          (Registry.ofPrograms start c.commands).resolve? (camelCase n) = some (i.command start key) := by
  have hkey := isCommandName_of_validate hvalid hmem
  have hsame := camelCase_hyphenated key
  refine ⟨hyphenated key, isName_hyphenated hkey hparts, hsame, fun m hm => eq_hyphenated hkey hm, ?_, ?_⟩
  · have hne : c.commands.filter (camelCase ·.1 = camelCase key) ≠ [] :=
      List.ne_nil_of_mem (List.mem_filter.mpr ⟨hmem, by simp⟩)
    have hlast := List.getLast?_eq_some_getLast hne
    refine ⟨_, _, hlast, ?_⟩
    rw [hsame, Registry.resolve?_ofPrograms, hlast]
    rfl
  · intro before after hcommands hlater
    rw [hsame, hcommands, Registry.resolve?_ofPrograms_of_last start before key i hlater]

/-- A command in both forms, with two programs. -/
def contested : Config where
  commands := [("page-title".toList, ⟨"cat", []⟩), ("pageTitle".toList, ⟨"tr", ["a-z", "A-Z"]⟩)]

/-- The program of the key in camel case is called for both. -/
theorem exists_name_of_key_contested :
    contested.validate = .ok () ∧ ∃ n, isName n = true ∧ camelCase n = "pageTitle".toList ∧
      (Registry.ofPrograms Program.noneStarts contested.commands).resolve? (camelCase n) =
        some (Invocation.command Program.noneStarts "pageTitle".toList ⟨"tr", ["a-z", "A-Z"]⟩) := by
  have hvalid : contested.validate = .ok () := by decide
  have hmem : ("pageTitle".toList, Invocation.mk "tr" ["a-z", "A-Z"]) ∈ contested.commands := by
    simp [contested]
  obtain ⟨n, hn, hsame, -, -, hlast⟩ :=
    exists_name_of_key Program.noneStarts hvalid hmem (by decide)
  exact ⟨hvalid, n, hn, hsame, hlast [_] [] rfl nofun⟩

/-- A valid configuration has a key that is not called: no name is resolved to its program. -/
theorem key_replaced :
    contested.validate = .ok () ∧ ("page-title".toList, ⟨"cat", []⟩) ∈ contested.commands ∧
      ¬ ∃ n, isName n = true ∧ camelCase n = camelCase "page-title".toList ∧
        (Registry.ofPrograms Program.noneStarts contested.commands).resolve? (camelCase n) =
          some (Invocation.command Program.noneStarts "page-title".toList ⟨"cat", []⟩) := by
  refine ⟨by decide, by simp [contested], ?_⟩
  rintro ⟨n, -, hsame, hresolve⟩
  have hlast : (Registry.ofPrograms Program.noneStarts contested.commands).resolve?
      (camelCase "pageTitle".toList) =
        some (Invocation.command Program.noneStarts "pageTitle".toList ⟨"tr", ["a-z", "A-Z"]⟩) :=
    Registry.resolve?_ofPrograms_of_last Program.noneStarts [_] _ _ nofun
  have hforms : camelCase n = camelCase "pageTitle".toList := hsame.trans (by decide)
  have hcommand := Option.some.inj (hlast.symm.trans (hforms ▸ hresolve))
  -- where none starts, each command tells which program it looked for
  have hevents := congrArg (fun c : Command Unit => (c.call .null ⟨(), []⟩).2.events) hcommand
  exact absurd hevents (by decide +kernel)

end Config
end Directives
