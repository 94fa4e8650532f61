import Directives.Commands
import Directives.Config.Validation
import Directives.Proofs.Consistency
import Directives.Proofs.Pieces

/-! Names and the commands they call.

A name goes into camel case by losing its hyphens, and `hyphenated` brings them back, one
in front of each capital. On a text in which each hyphen stands in front of a lower-case
letter (`Lettered`) nothing is lost on the way (`hyphenated_camelCase`). The names that the
grammar accepts are such texts and have no capitals, so that two of them never call one
command (`camelCase_inj`); and so are the names that a configuration accepts. -/
namespace Directives

/-! ### Letters -/

namespace Name

/-- One of 26 letters in a row, by its place. -/
theorem exists_place {c : Char} {first : Nat} (hlow : first ≤ c.toNat) (hhigh : c.toNat < first + 26) :
    ∃ n : Fin 26, c = Char.ofNat (first + n) := by
  refine ⟨⟨c.toNat - first, by omega⟩, ?_⟩
  rw [show first + (c.toNat - first) = c.toNat by omega, Char.ofNat_toNat]

theorem isLower_iff {c : Char} : c.isLower = true ↔ 97 ≤ c.toNat ∧ c.toNat ≤ 122 := by
  show (decide ('a'.val ≤ c.val) && decide (c.val ≤ 'z'.val)) = true ↔ _
  rw [Bool.and_eq_true, decide_eq_true_eq, decide_eq_true_eq, UInt32.le_iff_toNat_le, UInt32.le_iff_toNat_le]
  rfl

theorem isUpper_iff {c : Char} : c.isUpper = true ↔ 65 ≤ c.toNat ∧ c.toNat ≤ 90 := by
  show decide ('A'.val ≤ c.val ∧ c.val ≤ 'Z'.val) = true ↔ _
  rw [decide_eq_true_eq, UInt32.le_iff_toNat_le, UInt32.le_iff_toNat_le]
  rfl

theorem isDigit_iff {c : Char} : c.isDigit = true ↔ 48 ≤ c.toNat ∧ c.toNat ≤ 57 := by
  show (decide ('0'.val ≤ c.val) && decide (c.val ≤ '9'.val)) = true ↔ _
  rw [Bool.and_eq_true, decide_eq_true_eq, decide_eq_true_eq, UInt32.le_iff_toNat_le, UInt32.le_iff_toNat_le]
  rfl

theorem isAlphanum_iff {c : Char} :
    c.isAlphanum = true ↔ c.isUpper = true ∨ c.isLower = true ∨ c.isDigit = true := by
  show (c.isUpper || c.isLower || c.isDigit) = true ↔ _
  rw [Bool.or_eq_true, Bool.or_eq_true, or_assoc]

theorem ne_hyphen_of_isLower {c : Char} (h : c.isLower = true) : c ≠ '-' := by
  rintro rfl
  exact absurd h (by decide)

theorem not_isUpper_of_isLower {c : Char} (h : c.isLower = true) : c.isUpper = false := by
  rw [isLower_iff] at h
  rw [Bool.eq_false_iff, ne_eq, isUpper_iff]
  omega

theorem isLetterOrDigit_iff {c : Char} :
    isLetterOrDigit c = true ↔ c.isAlphanum = true ∧ c.isUpper = false := by
  rw [isLetterOrDigit, Bool.or_eq_true, isAlphanum_iff, Bool.eq_false_iff, ne_eq, isLower_iff, isUpper_iff,
    isDigit_iff]
  omega

/-- The capital of a lower-case letter, and the letter that it is the capital of. -/
theorem capital_of_isLower {c : Char} (h : c.isLower = true) :
    Unicode.upperChar c = [c.toUpper] ∧ c.toUpper.isUpper = true ∧ c.toUpper.toLower = c := by
  obtain ⟨hlow, hhigh⟩ := isLower_iff.mp h
  obtain ⟨n, rfl⟩ := exists_place hlow (by omega)
  clear h hlow hhigh
  revert n
  decide

/-- The lower-case letter of a capital, and the capital of that letter. -/
theorem lower_of_isUpper {c : Char} (h : c.isUpper = true) :
    c.toLower.isLower = true ∧ Unicode.upperChar c = [c] ∧ Unicode.upperChar c.toLower = [c] := by
  obtain ⟨hlow, hhigh⟩ := isUpper_iff.mp h
  obtain ⟨n, rfl⟩ := exists_place hlow (by omega)
  clear h hlow hhigh
  revert n
  decide

end Name

/-! ### Hyphens and capitals -/

/-- A text in which each hyphen stands in front of a lower-case letter. -/
inductive Lettered : Text → Prop where
  | nil : Lettered []
  | cons {c : Char} {s : Text} : c ≠ '-' → Lettered s → Lettered (c :: s)
  | hyphen {c : Char} {s : Text} : c.isLower = true → Lettered s → Lettered ('-' :: c :: s)

/-- The text with each capital in lower case and a hyphen in front of it. -/
def hyphenated (s : Text) : Text :=
  s.flatMap fun c => if c.isUpper then ['-', c.toLower] else [c]

theorem camelCase_cons {c : Char} (hc : c ≠ '-') (s : Text) : camelCase (c :: s) = c :: camelCase s := by
  rw [camelCase, camelCase.go, if_neg hc]
  rfl

theorem camelCase_hyphen {c : Char} (hc : c.isLower = true) (s : Text) :
    camelCase ('-' :: c :: s) = c.toUpper :: camelCase s := by
  rw [camelCase, camelCase.go, if_pos rfl, camelCase.go, if_neg (Name.ne_hyphen_of_isLower hc), if_pos rfl,
    (Name.capital_of_isLower hc).1]
  rfl

theorem hyphenated_cons (c : Char) (s : Text) :
    hyphenated (c :: s) = (if c.isUpper then ['-', c.toLower] else [c]) ++ hyphenated s :=
  rfl

theorem hyphenated_of_lower {s : Text} (h : ∀ c ∈ s, c.isUpper = false) : hyphenated s = s := by
  induction s with
  | nil => rfl
  | cons c s ih =>
    rw [hyphenated_cons, h c (List.mem_cons_self ..), ih fun d hd => h d (List.mem_cons_of_mem c hd)]
    rfl

/-- Camel case has the hyphens of a lettered text in its capitals. -/
theorem hyphenated_camelCase {s : Text} (h : Lettered s) : hyphenated (camelCase s) = hyphenated s := by
  induction h with
  | nil => rfl
  | cons hc _ ih => rw [camelCase_cons hc, hyphenated_cons, hyphenated_cons, ih]
  | @hyphen c s hc _ ih =>
    obtain ⟨-, hupper, hlower⟩ := Name.capital_of_isLower hc
    rw [camelCase_hyphen hc, hyphenated_cons, hyphenated_cons, hyphenated_cons, hupper, hlower, ih,
      Name.not_isUpper_of_isLower hc]
    rfl

/-- The hyphens that are put in go again. -/
theorem camelCase_hyphenated (s : Text) : camelCase (hyphenated s) = camelCase s := by
  suffices hgo : ∀ raise, camelCase.go raise (hyphenated s) = camelCase.go raise s from hgo false
  induction s with
  | nil => exact fun _ => rfl
  | cons c s ih =>
    intro raise
    rw [hyphenated_cons]
    by_cases hupper : c.isUpper = true
    · obtain ⟨hlower, hsame, hraised⟩ := Name.lower_of_isUpper hupper
      have hne : c ≠ '-' := by
        rintro rfl
        exact absurd hupper (by decide)
      have hne' := Name.ne_hyphen_of_isLower hlower
      simp only [hupper, if_true, List.cons_append, List.nil_append, camelCase.go, hne, hne', if_false,
        hraised, hsame, ih]
      cases raise <;> rfl
    · simp only [hupper, Bool.false_eq_true, if_false, List.cons_append, List.nil_append, camelCase.go, ih]

/-- A character of camel case is one of the text and no hyphen, or it is a capital. -/
theorem mem_camelCase {s : Text} (h : Lettered s) {c : Char} (hc : c ∈ camelCase s) :
    c ∈ s ∧ c ≠ '-' ∨ c.isUpper = true := by
  induction h with
  | nil => cases hc
  | @cons d s hd _ ih =>
    rw [camelCase_cons hd] at hc
    rcases List.mem_cons.mp hc with rfl | hc
    · exact .inl ⟨List.mem_cons_self .., hd⟩
    · exact (ih hc).imp_left (And.imp_left (List.mem_cons_of_mem d))
  | @hyphen d s hd _ ih =>
    rw [camelCase_hyphen hd] at hc
    rcases List.mem_cons.mp hc with rfl | hc
    · exact .inr (Name.capital_of_isLower hd).2.1
    · exact (ih hc).imp_left (And.imp_left fun hmem => List.mem_cons_of_mem _ (List.mem_cons_of_mem d hmem))

/-- In front of the first hyphen nothing changes. -/
theorem camelCase_append {s : Text} (h : '-' ∉ s) (t : Text) : camelCase (s ++ t) = s ++ camelCase t := by
  induction s with
  | nil => rfl
  | cons c s ih =>
    rw [List.mem_cons, not_or] at h
    rw [List.cons_append, camelCase_cons (Ne.symm h.1), ih h.2, List.cons_append]

/-! ### Pieces -/

/-- The text begins with a lower-case letter. -/
def BeginsLower (s : Text) : Prop :=
  ∃ c t, s = c :: t ∧ c.isLower = true

theorem beginsLower_cons {c : Char} {s : Text} : BeginsLower (c :: s) ↔ c.isLower = true := by
  constructor
  · rintro ⟨_, _, h, hc⟩
    exact (List.cons.inj h).1 ▸ hc
  · exact fun hc => ⟨c, s, rfl, hc⟩

theorem not_beginsLower_nil : ¬ BeginsLower [] := by
  rintro ⟨_, _, h, -⟩
  cases h

theorem lettered_cons_iff {c : Char} (hc : c ≠ '-') {s : Text} : Lettered (c :: s) ↔ Lettered s := by
  constructor
  · intro h
    cases h with
    | cons _ h => exact h
    | hyphen => exact absurd rfl hc
  · exact .cons hc

theorem lettered_hyphen_iff {s : Text} : Lettered ('-' :: s) ↔ BeginsLower s ∧ Lettered s := by
  constructor
  · intro h
    cases h with
    | cons hc => exact absurd rfl hc
    | hyphen hc h => exact ⟨beginsLower_cons.mpr hc, .cons (Name.ne_hyphen_of_isLower hc) h⟩
  · rintro ⟨⟨c, s, rfl, hc⟩, h⟩
    exact .hyphen hc ((lettered_cons_iff (Name.ne_hyphen_of_isLower hc)).mp h)

/-- A text and its first piece begin alike. -/
theorem beginsLower_piece_iff {s piece : Text} {pieces : List Text}
    (h : Text.splitOn '-' s = piece :: pieces) : BeginsLower piece ↔ BeginsLower s := by
  cases s with
  | nil =>
    cases h
    rfl
  | cons c s =>
    by_cases hc : c = '-'
    · subst hc
      rw [Text.splitOn_self] at h
      cases h
      exact ⟨fun hnil => absurd hnil not_beginsLower_nil,
        fun h => absurd (beginsLower_cons.mp h) (by decide)⟩
    · obtain ⟨first, others, hs⟩ := Text.exists_splitOn '-' s
      rw [Text.splitOn_of_ne hc hs] at h
      cases h
      rw [beginsLower_cons, beginsLower_cons]

theorem lettered_iff_tail {s piece : Text} {pieces : List Text} (h : Text.splitOn '-' s = piece :: pieces) :
    Lettered s ↔ ∀ p ∈ pieces, BeginsLower p := by
  induction s generalizing piece pieces with
  | nil =>
    cases h
    exact ⟨fun _ => nofun, fun _ => .nil⟩
  | cons c s ih =>
    obtain ⟨first, others, hs⟩ := Text.exists_splitOn '-' s
    by_cases hc : c = '-'
    · subst hc
      rw [Text.splitOn_self, hs] at h
      cases h
      rw [lettered_hyphen_iff, ih hs, List.forall_mem_cons, beginsLower_piece_iff hs]
    · rw [Text.splitOn_of_ne hc hs] at h
      cases h
      rw [lettered_cons_iff hc, ih hs]

/-! ### Names -/

namespace Config

theorem isNamePart_iff {s : Text} :
    isNamePart s = true ↔ BeginsLower s ∧ 2 ≤ s.length ∧ ∀ c ∈ s, c.isAlphanum = true := by
  rcases s with _ | ⟨first, _ | ⟨second, rest⟩⟩
  · simp [isNamePart]
  · simp [isNamePart]
  · rw [isNamePart, beginsLower_cons, List.forall_mem_cons, Bool.and_eq_true, List.all_eq_true]
    constructor
    · rintro ⟨h, hrest⟩
      exact ⟨h, Nat.le_add_left 2 rest.length, Name.isAlphanum_iff.mpr (.inr (.inl h)), hrest⟩
    · rintro ⟨h, -, -, hrest⟩
      exact ⟨h, hrest⟩

/-- A command's name begins with a lower-case letter, as each piece behind a hyphen does, its
pieces are no single characters, and it is made of letters and digits. -/
theorem isCommandName_iff {s : Text} :
    isCommandName s = true ↔ BeginsLower s ∧ Lettered s ∧
      (∀ piece ∈ Text.splitOn '-' s, 2 ≤ piece.length) ∧ ∀ c ∈ s, c ≠ '-' → c.isAlphanum = true := by
  obtain ⟨first, others, hs⟩ := Text.exists_splitOn '-' s
  have hchars : (∀ piece ∈ Text.splitOn '-' s, ∀ c ∈ piece, c.isAlphanum = true) ↔
      ∀ c ∈ s, c ≠ '-' → c.isAlphanum = true := by
    constructor
    · intro h c hc hne
      obtain ⟨piece, hpiece, hmem⟩ := Text.mem_splitOn_iff.mpr ⟨hc, hne⟩
      exact h piece hpiece c hmem
    · intro h piece hpiece c hmem
      obtain ⟨hc, hne⟩ := Text.mem_splitOn_iff.mp ⟨piece, hpiece, hmem⟩
      exact h c hc hne
  have hbegin : (∀ piece ∈ Text.splitOn '-' s, BeginsLower piece) ↔ BeginsLower s ∧ Lettered s := by
    rw [lettered_iff_tail hs, hs, List.forall_mem_cons, beginsLower_piece_iff hs]
  rw [isCommandName, List.all_eq_true, ← hchars, ← and_assoc, ← hbegin]
  constructor
  · intro h
    have hpart := fun piece hpiece => isNamePart_iff.mp (h piece hpiece)
    exact ⟨fun q hq => (hpart q hq).1, fun q hq => (hpart q hq).2.1, fun q hq => (hpart q hq).2.2⟩
  · rintro ⟨hfirst, hlength, hall⟩ q hq
    exact isNamePart_iff.mpr ⟨hfirst q hq, hlength q hq, hall q hq⟩

/-- In camel case a command's name is one again. -/
theorem isCommandName_camelCase {s : Text} (h : isCommandName s = true) :
    isCommandName (camelCase s) = true := by
  obtain ⟨⟨c, t, rfl, hc⟩, hlettered, hlength, hchars⟩ := isCommandName_iff.mp h
  have hnot : '-' ∉ camelCase (c :: t) := by
    intro hmem
    rcases mem_camelCase hlettered hmem with ⟨-, hne⟩ | hupper
    · exact hne rfl
    · exact absurd hupper (by decide)
  obtain ⟨piece, pieces, hs⟩ := Text.exists_splitOn '-' (c :: t)
  obtain ⟨hpiece, rest, hsplit⟩ := Text.exists_eq_append_of_splitOn hs
  refine isCommandName_iff.mpr ⟨?_, ?_, fun q hq => ?_, fun d hd _ => ?_⟩
  · rw [camelCase_cons (Name.ne_hyphen_of_isLower hc)]
    exact beginsLower_cons.mpr hc
  · rw [lettered_iff_tail (Text.splitOn_of_notMem hnot)]
    exact nofun
  · rw [Text.splitOn_of_notMem hnot, List.mem_singleton] at hq
    have hlong := hlength piece (hs ▸ List.mem_cons_self ..)
    rw [hq, hsplit, camelCase_append hpiece, List.length_append]
    omega
  · rcases mem_camelCase hlettered hd with ⟨hmem, hne⟩ | hupper
    · exact hchars d hmem hne
    · exact Name.isAlphanum_iff.mpr (.inl hupper)

end Config

theorem Name.isSegment_iff {s : Text} :
    isSegment s = true ↔ Config.isNamePart s = true ∧ ∀ c ∈ s, c.isUpper = false := by
  rcases s with _ | ⟨first, _ | ⟨second, rest⟩⟩
  · simp [isSegment, Config.isNamePart]
  · simp [isSegment, Config.isNamePart]
  · rw [isSegment, Config.isNamePart, List.forall_mem_cons]
    simp only [Bool.and_eq_true, List.all_eq_true, isLetterOrDigit_iff]
    constructor
    · rintro ⟨h, hrest⟩
      exact ⟨⟨h, fun c hc => (hrest c hc).1⟩, not_isUpper_of_isLower h, fun c hc => (hrest c hc).2⟩
    · rintro ⟨⟨h, hrest⟩, -, hsmall⟩
      exact ⟨h, fun c hc => ⟨hrest c hc, hsmall c hc⟩⟩

/-- The names of directives are the names of commands that have no capitals. -/
theorem isName_iff {s : Text} :
    isName s = true ↔ Config.isCommandName s = true ∧ ∀ c ∈ s, c.isUpper = false := by
  rw [isName, Config.isCommandName, List.all_eq_true, List.all_eq_true]
  constructor
  · intro h
    have hpart := fun piece hpiece => Name.isSegment_iff.mp (h piece hpiece)
    refine ⟨fun piece hpiece => (hpart piece hpiece).1, fun c hc => ?_⟩
    by_cases hne : c = '-'
    · rw [hne]
      decide
    · obtain ⟨piece, hpiece, hmem⟩ := Text.mem_splitOn_iff.mpr ⟨hc, hne⟩
      exact (hpart piece hpiece).2 c hmem
  · rintro ⟨h, hsmall⟩ piece hpiece
    exact Name.isSegment_iff.mpr ⟨h piece hpiece, fun c hc =>
      hsmall c (Text.mem_splitOn_iff.mp ⟨piece, hpiece, hc⟩).1⟩

/-- A name comes back from the command that it calls. -/
theorem hyphenated_camelCase_of_isName {n : Text} (h : isName n = true) : hyphenated (camelCase n) = n := by
  obtain ⟨hcommand, hsmall⟩ := isName_iff.mp h
  rw [hyphenated_camelCase (Config.isCommandName_iff.mp hcommand).2.1, hyphenated_of_lower hsmall]

theorem camelCase_inj {m n : Text} (hm : isName m = true) (hn : isName n = true) :
    camelCase m = camelCase n ↔ m = n := by
  constructor
  · intro h
    rw [← hyphenated_camelCase_of_isName hm, h, hyphenated_camelCase_of_isName hn]
  · exact congrArg camelCase

/-- Camel case of a command's name stays as it is. -/
theorem camelCase_camelCase {s : Text} (h : Lettered s) : camelCase (camelCase s) = camelCase s := by
  rw [← camelCase_hyphenated (camelCase s), hyphenated_camelCase h, camelCase_hyphenated]

theorem Config.validateCommand_eq_ok_iff {name : Text} {i : Invocation} :
    validateCommand name i = .ok () ↔ isCommandName name = true ∧ i.program ≠ [] := by
  rw [validateCommand]
  cases isCommandName name with
  | false => simp
  | true => cases hprogram : i.program <;> simp

/-! ### Registries -/

section
variable {σ : Type}

namespace Registry

/-- Of several commands of one name the last one is registered. -/
theorem resolve?_registerAll (r : Registry σ) (commands : List (Command σ)) (name : Text) :
    (r.registerAll commands).resolve? name =
      ((commands.filter (·.name = name)).getLast?).or (r.resolve? name) := by
  induction commands using List.reverseRecOn with
  | nil => rfl
  | append_singleton commands c ih =>
    rw [registerAll, List.foldl_append, List.foldl_cons, List.foldl_nil, List.filter_append, ← registerAll]
    by_cases hc : c.name = name
    · rw [← hc, resolve?_register_self, List.filter_cons_of_pos (by simp), List.filter_nil,
        List.getLast?_concat, Option.some_or]
    · rw [resolve?_register_of_ne _ (Ne.symm hc), ih, List.filter_cons_of_neg (by simpa using hc),
        List.filter_nil, List.append_nil]

/-- Of several keys with one camel case the last one is resolved. -/
theorem resolve?_ofPrograms (start : Program.Start σ) (invocations : List (Text × Invocation))
    (name : Text) :
    (ofPrograms start invocations).resolve? name =
      (((invocations.filter (camelCase ·.1 = name)).getLast?).map fun (key, i) => i.command start key).or
        (Builtin.registry.resolve? name) := by
  rw [ofPrograms, resolve?_registerAll, List.filter_map, List.getLast?_map]
  rfl

theorem resolve?_ofPrograms_of_last (start : Program.Start σ) (before : List (Text × Invocation))
    (key : Text) (i : Invocation) {after : List (Text × Invocation)}
    (h : ∀ later ∈ after, camelCase later.1 ≠ camelCase key) :
    (ofPrograms start (before ++ (key, i) :: after)).resolve? (camelCase key) =
      some (i.command start key) := by
  have hafter : after.filter (camelCase ·.1 = camelCase key) = [] :=
    List.filter_eq_nil_iff.mpr fun later hlater => by simpa using h later hlater
  rw [resolve?_ofPrograms, List.filter_append, List.filter_cons_of_pos (by simp), hafter,
    List.getLast?_concat]
  rfl

end Registry

theorem Invocation.command_congr (start : Program.Start σ) {key key' : Text}
    (h : camelCase key = camelCase key') (i : Invocation) : i.command start key = i.command start key' := by
  simp only [command, h]

end

/-- Where there are no programs, none starts. -/
def Program.noneStarts : Program.Start Unit :=
  fun _ _ _ _ => .error (.refused .missing)

/-! ### Directives -/

namespace Directive

variable {σ : Type}

theorem Reachable.isName_name {d : Directive σ} (h : d.Reachable) : isName d.token.name = true := by
  obtain ⟨tokens, htokens, hmem⟩ := h.consistent.read
  obtain ⟨_, -, _, -, -, _, _, hbegins⟩ := Token.exists_begins htokens hmem
  exact hbegins.named

theorem Reachable.command_eq_iff {d : Directive σ} (h : d.Reachable) {n : Text} (hn : isName n = true) :
    d.command = camelCase n ↔ d.token.name = n :=
  camelCase_inj h.isName_name hn

/-- **Names and commands correspond one to one.** No other name calls the command of a name:
directives call one command where they have one name, a group has under the command the directives
of the name, and registering the command of another name leaves it alone. A configuration may have
the name for a key and its camel case as well, which stays as it is in camel case; either way it is
the program that directives of the name call, whatever starts it, if no later key stands for the same
command. -/
theorem name_corresponds {n : Text} (hn : isName n = true) :
    (∀ m, isName m = true → (camelCase m = camelCase n ↔ m = n)) ∧
    (∀ a b : Directive σ, a.Reachable → b.Reachable →
      (a.command = b.command ↔ a.token.name = b.token.name)) ∧
    (∀ (ds : List (Directive σ)) (entry : Entry σ), (∀ d ∈ ds, d.Reachable) →
      (Group.ofList ds).get? (camelCase n) = some entry → entry.toList = ds.filter (·.token.name = n)) ∧
    (∀ (registry : Registry σ) (c : Command σ) (m : Text), isName m = true → c.name = camelCase m →
      (registry.register c).resolve? (camelCase n) =
        if m = n then some c else registry.resolve? (camelCase n)) ∧
    camelCase (camelCase n) = camelCase n ∧
    ∀ key, key = n ∨ key = camelCase n →
      (∀ i, Config.validateCommand key i = .ok () ↔ i.program ≠ []) ∧
      ∀ (start : Program.Start σ) (before after : List (Text × Invocation)) (i : Invocation),
        (∀ later ∈ after, camelCase later.1 ≠ camelCase n) →
        ∀ (stripTabs : Bool) (text : Text) (e : Effects σ) (ds : List (Directive σ)),
          (parse (.ofPrograms start (before ++ (key, i) :: after)) stripTabs text e).1 = .ok ds →
          ∀ d ∈ ds, d.token.name = n → d.binding = some (i.command start n) := by
  have hcommand := (isName_iff.mp hn).1
  have hstays := camelCase_camelCase (Config.isCommandName_iff.mp hcommand).2.1
  refine ⟨fun m hm => camelCase_inj hm hn, fun a b ha hb => ha.command_eq_iff hb.isName_name,
    fun ds entry hds hget => ?_, fun registry c m hm hc => ?_, hstays, fun key hkey => ?_⟩
  · rw [Group.toList_of_get? hget]
    refine List.filter_congr fun d hd => ?_
    rw [decide_eq_decide]
    exact (hds d hd).command_eq_iff hn
  · by_cases h : m = n
    · rw [if_pos h, ← h, ← hc, Registry.resolve?_register_self]
    · have hne : camelCase n ≠ c.name := fun hsame => h ((camelCase_inj hm hn).mp (hc.symm.trans hsame.symm))
      rw [if_neg h, Registry.resolve?_register_of_ne _ hne]
  · have hsame : camelCase key = camelCase n := by
      rcases hkey with rfl | rfl
      · rfl
      · exact hstays
    have hvalid : Config.isCommandName key = true := by
      rcases hkey with rfl | rfl
      · exact hcommand
      · exact Config.isCommandName_camelCase hcommand
    refine ⟨fun i => ?_, fun start before after i hlater stripTabs text e ds hparse d hd hname => ?_⟩
    · rw [Config.validateCommand_eq_ok_iff]
      exact and_iff_right hvalid
    · obtain ⟨tokens, -, rfl⟩ := parse_eq_ok_iff.mp hparse
      obtain ⟨token, -, rfl⟩ := List.mem_map.mp hd
      have hlast := Registry.resolve?_ofPrograms_of_last start before key i (hsame ▸ hlater)
      rw [hsame, Invocation.command_congr start hsame] at hlast
      rw [bound, show token.name = n from hname]
      exact hlast

/-- A directive whose name has digits and two hyphens calls the program that is configured in camel
case, and no directive of another name does. -/
theorem name_corresponds_digits :
    isName "a1-b2-c".toList = false ∧ isName "a1-b2-c3".toList = true ∧
      camelCase "a1-b2-c3".toList = "a1B2C3".toList ∧
      (∀ m, isName m = true → (camelCase m = camelCase "a1-b2-c3".toList ↔ m = "a1-b2-c3".toList)) ∧
      ∃ d, (parse (.ofPrograms Program.noneStarts [("a1B2C3".toList, ⟨"cat", []⟩)]) true
          "@a1-b2-c3:: x;".toList ⟨(), []⟩).1 = .ok [d] ∧
        d.binding = some (Invocation.command Program.noneStarts "a1-b2-c3".toList ⟨"cat", []⟩) := by
  have hn : isName "a1-b2-c3".toList = true := by decide
  have hcamel : camelCase "a1-b2-c3".toList = "a1B2C3".toList := by decide
  obtain ⟨token, htokens, hname⟩ :
      ∃ token, Token.ofText true "@a1-b2-c3:: x;".toList = .ok [token] ∧ token.name = "a1-b2-c3".toList :=
    ⟨⟨"@a1-b2-c3:: x;".toList, "a1-b2-c3".toList, "x".toList, .line, ⟨0, 14⟩, ⟨12, 13⟩⟩,
      by decide +kernel, rfl⟩
  have hparse := parse_of_ofText htokens
    (Registry.ofPrograms Program.noneStarts [("a1B2C3".toList, ⟨"cat", []⟩)]) ⟨(), []⟩
  obtain ⟨honly, -, -, -, -, hkeys⟩ := name_corresponds hn
  have hbinding := (hkeys _ (.inr hcamel.symm)).2 Program.noneStarts [] [] ⟨"cat", []⟩ nofun _ _ _ _ hparse _
    (List.mem_singleton_self _) hname
  exact ⟨by decide, hn, hcamel, honly, _, hparse, hbinding⟩

end Directive
end Directives
