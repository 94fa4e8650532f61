import Directives.Proofs.Descent
import Directives.Scripted

/-! What a chain comes to where no answer is a directive.

A chain reads the directives that stand inside one another (`Inwards`), lays them on
a stack and starts again with each of them, so that every answer is looked at for a
chain of its own. Where no answer is a directive nothing of this is left
(`chainWith_eq_innermostFirst`): the directives are executed once each, the
innermost on its own parameter and every other one on the answer of the one inside
it. -/
namespace Directives.Directive

variable {σ : Type} {registry : Registry σ} {stripTabs : Bool}

/-! ### Executing from the innermost outwards -/

/-- Execute `d`, given the directives inside it from the next one to the innermost. The innermost
is executed on its own parameter, every other one on the answer of the one inside it. -/
def innermostFirst (registry : Registry σ) : Directive σ → List (Directive σ) → Act σ Value
  | d, [] => d.execute registry none
  | d, inner :: below => do
    let v ← innermostFirst registry inner below
    d.execute registry (some v)

theorem innermostFirst_cons (registry : Registry σ) (d inner : Directive σ) (below : List (Directive σ))
    (e : Effects σ) : innermostFirst registry d (inner :: below) e =
      d.execute registry (some (innermostFirst registry inner below e).1)
        (innermostFirst registry inner below e).2 :=
  rfl

/-- `record` takes down each execution of the directive under the name of its command. -/
def TakesDown (registry : Registry σ) (record : σ → List Text) (d : Directive σ) : Prop :=
  ∀ v e, record (d.execute registry (some v) e).2.world = record e.world ++ [d.command]

/-- Each directive is executed once, the innermost first. -/
theorem record_innermostFirst {record : σ → List Text} {d : Directive σ} {below : List (Directive σ)}
    (h : ∀ x ∈ d :: below, TakesDown registry record x) (e : Effects σ) :
    record (innermostFirst registry d below e).2.world =
      record e.world ++ (d :: below).reverse.map command := by
  induction below generalizing d with
  | nil => exact h d (List.mem_cons_self ..) d.parameter e
  | cons inner below ih =>
    have hinner := ih fun x hx => h x (List.mem_cons_of_mem d hx)
    rw [innermostFirst_cons, h d (List.mem_cons_self ..), hinner]
    simp

/-- The calls of a chain, where only the outermost directive may answer a directive. -/
theorem feed_innermostFirst {d innermost : Directive σ} {below : List (Directive σ)} {e : Effects σ}
    (hlast : (d :: below).getLast? = some innermost) (hplain : nestedText? innermost.parameter = none)
    (hanswers : ∀ x rest, x :: rest <:+ below → nestedText? (innermostFirst registry x rest e).1 = none)
    (depth : Nat) (state : ChainState) :
    feed (fun x v => chainWith registry (depth + 1) x (some v)) (d :: below).reverse innermost.parameter
        state e =
      ((.ok (innermostFirst registry d below e).1, state), (innermostFirst registry d below e).2) := by
  induction below generalizing d with
  | nil =>
    obtain rfl : d = innermost := Option.some.inj hlast
    have hplain : nestedText? ((some d.parameter).getD d.parameter) = none := hplain
    rw [List.reverse_singleton, feed_cons, chainWith_of_plain registry hplain]
    rfl
  | cons inner below ih =>
    rw [List.getLast?_cons_cons] at hlast
    have hbelow := ih hlast fun x rest hsuffix => hanswers x rest (hsuffix.trans (List.suffix_cons inner below))
    have hanswer : nestedText? ((some (innermostFirst registry inner below e).1).getD d.parameter) = none :=
      hanswers inner below (List.suffix_refl _)
    rw [List.reverse_cons, feed_concat, hbelow]
    exact chainWith_of_plain registry hanswer depth state _

/-! ### Reading inwards -/

/-- From `text` inwards stand the directives of a list: the first directive of the text, the first
one of its parameter, and so on to one whose parameter is no directive. Reading them makes of
the effects so far those that come last. -/
inductive Inwards (registry : Registry σ) (stripTabs : Bool) :
    Text → Effects σ → List (Directive σ) → Effects σ → Prop where
  | innermost {text : Text} {e read : Effects σ} {d : Directive σ} {others : List (Directive σ)} :
      parse registry stripTabs text e = (.ok (d :: others), read) → nestedText? d.parameter = none →
      Inwards registry stripTabs text e [d] read
  | outer {text inner : Text} {e between read : Effects σ} {d : Directive σ}
      {others below : List (Directive σ)} :
      parse registry stripTabs text e = (.ok (d :: others), between) →
      nestedText? d.parameter = some inner → Inwards registry stripTabs inner between below read →
      Inwards registry stripTabs text e (d :: below) read

/-- It is the way down to the end, with one text read for each directive. -/
theorem Inwards.descent {text : Text} {e read : Effects σ} {below : List (Directive σ)}
    (h : Inwards registry stripTabs text e below read) :
    Descent registry stripTabs below.length text e (.ok below) read := by
  induction h with
  | innermost hparse hplain => exact .innermost hparse hplain
  | outer hparse hinner _ ih => exact .further hparse hinner ih

theorem Inwards.descend_eq {text : Text} {e read : Effects σ} {below : List (Directive σ)}
    (h : Inwards registry stripTabs text e below read) :
    descend registry stripTabs text.length text e = (.ok below, read) :=
  h.descent.descend_eq

/-- The way inwards ends at a directive whose parameter is none. -/
theorem Inwards.exists_innermost {text : Text} {e read : Effects σ} {below : List (Directive σ)}
    (h : Inwards registry stripTabs text e below read) :
    ∃ innermost, below.getLast? = some innermost ∧ nestedText? innermost.parameter = none := by
  induction h with
  | @innermost _ _ _ d _ _ hplain => exact ⟨d, rfl, hplain⟩
  | outer _ _ _ ih =>
    obtain ⟨innermost, hlast, hplain⟩ := ih
    exact ⟨innermost, by rw [List.getLast?_cons, hlast]; rfl, hplain⟩

/-- Reading leaves the world alone. -/
theorem Inwards.world_eq {text : Text} {e read : Effects σ} {below : List (Directive σ)}
    (h : Inwards registry stripTabs text e below read) : read.world = e.world := by
  induction h with
  | @innermost text e _ _ _ hparse _ =>
    have hworld := parse_world registry stripTabs text e
    rwa [hparse] at hworld
  | @outer text _ e _ _ _ _ _ hparse _ _ ih =>
    have hworld := parse_world registry stripTabs text e
    rw [hparse] at hworld
    exact ih.trans hworld

/-! ### The whole chain -/

/-- **A chain executes innermost first.** A directive whose parameter is no directive is executed
once. Any other whose command is not tracked yet answers what executing the directives inside it
from the innermost outwards comes to, unless the answer of one of these is a directive; its
command is tracked, and each directive is executed once. -/
theorem chainWith_eq_innermostFirst (registry : Registry σ) (d : Directive σ) (override : Option Value)
    (state : ChainState) (e : Effects σ) (depth : Nat) :
    (nestedText? (override.getD d.parameter) = none →
      chainWith registry (depth + 1) d override state e =
        ((.ok (d.execute registry override e).1, state), (d.execute registry override e).2)) ∧
    ∀ text below read, nestedText? (override.getD d.parameter) = some text →
      state.isTracked d.command = false → Inwards registry d.stripTabs text e below read →
      let start := (report (.chainResolved d.command (below.length + 1)) read).2
      (∀ x rest, x :: rest <:+ below → nestedText? (innermostFirst registry x rest start).1 = none) →
      chainWith registry (depth + 2) d override state e =
          ((.ok (innermostFirst registry d below start).1, state.track d.command),
            (innermostFirst registry d below start).2) ∧
        ∀ record, (∀ x ∈ d :: below, TakesDown registry record x) →
          record (innermostFirst registry d below start).2.world =
            record e.world ++ (d :: below).reverse.map command := by
  refine ⟨fun hplain => chainWith_of_plain registry hplain depth state e, ?_⟩
  intro text below read htext hnot hinwards start hanswers
  obtain ⟨innermost, hlast, hplain⟩ := hinwards.exists_innermost
  have hstack : (d :: below).getLast? = some innermost := by
    rw [List.getLast?_cons, hlast]
    rfl
  constructor
  · rw [chainWith_of_starting htext hnot (depth + 1), hinwards.descend_eq]
    simp only [hlast, Option.getD_some]
    exact feed_innermostFirst hstack hplain hanswers depth (state.track d.command)
  · intro record hrecord
    have hworld : start.world = e.world := hinwards.world_eq
    rw [record_innermostFirst hrecord, hworld]

/-- A block of a command around a text. -/
def around (command inside : Text) : Text :=
  '@' :: (command ++ [':', ' '] ++ inside ++ [' ', '@', 'e', 'n', 'd', '-'] ++ command)

/-- Three commands that put a text in brackets. -/
def bracketing : Registry (List Call) :=
  ⟨[Script.command 0 ['a', 'a'] (.wrap ['['] [']']), Script.command 1 ['b', 'b'] (.wrap ['('] [')']),
    Script.command 2 ['c', 'c'] (.wrap ['<'] ['>'])], by decide⟩

/-- A line directive in a block in a block. -/
def bracketed : Directive (List Call) :=
  let inside := around ['b', 'b'] (lineOf ['c', 'c'])
  bound bracketing true (around ['a', 'a'] inside)
    ⟨around ['a', 'a'] inside, ['a', 'a'], inside, .block, ⟨0, 34⟩, ⟨5, 26⟩⟩

/-- The token of the line directive, at a byte. -/
def lineToken (start : Nat) : Token :=
  ⟨lineOf ['c', 'c'], ['c', 'c'], ['x'], .line, ⟨start, start + 8⟩, ⟨start + 6, start + 7⟩⟩

/-- The token of the inner block. -/
def innerToken : Token :=
  ⟨around ['b', 'b'] (lineOf ['c', 'c']), ['b', 'b'], lineOf ['c', 'c'], .block, ⟨0, 21⟩, ⟨5, 13⟩⟩

/-- The directives inside the outer block, each read in the parameter of the one around it. -/
def belowBracketed : List (Directive (List Call)) :=
  [bound bracketing true (around ['b', 'b'] (lineOf ['c', 'c'])) innerToken,
    bound bracketing true (lineOf ['c', 'c']) (lineToken 0)]

theorem inwards_bracketed :
    Inwards bracketing true (around ['b', 'b'] (lineOf ['c', 'c'])) ⟨[], []⟩ belowBracketed ⟨[], []⟩ := by
  have hblock : Token.ofText true (around ['b', 'b'] (lineOf ['c', 'c'])) =
      .ok [innerToken, lineToken 5] := by decide +kernel
  have hline : Token.ofText true (lineOf ['c', 'c']) = .ok [lineToken 0] := by decide +kernel
  have houter : parse bracketing true (around ['b', 'b'] (lineOf ['c', 'c'])) ⟨[], []⟩ =
      (.ok ([innerToken, lineToken 5].map (bound bracketing true (around ['b', 'b'] (lineOf ['c', 'c'])))),
        ⟨[], []⟩) := by
    rw [parse, hblock]
    rfl
  have hinner : parse bracketing true (lineOf ['c', 'c']) ⟨[], []⟩ =
      (.ok ([lineToken 0].map (bound bracketing true (lineOf ['c', 'c']))), ⟨[], []⟩) := by
    rw [parse, hline]
    rfl
  exact .outer houter (by decide +kernel) (.innermost hinner (by decide +kernel))

theorem takesDown_bracketing :
    ∀ x ∈ bracketed :: belowBracketed, TakesDown bracketing (List.map Call.name) x := by
  have hcommand : ∀ (x : Directive (List Call)) index script,
      x.binding = some (Script.command index x.command script) →
      TakesDown bracketing (List.map Call.name) x := by
    intro x index script hbinding v e
    rw [execute, hbinding]
    exact List.map_append
  intro x hx
  rcases List.mem_cons.mp hx with rfl | hx
  · exact hcommand _ 0 _ rfl
  rcases List.mem_cons.mp hx with rfl | hx
  · exact hcommand _ 1 _ rfl
  obtain rfl := List.mem_singleton.mp hx
  exact hcommand _ 2 _ rfl

/-- The three commands are called from the inside outwards, and put brackets around brackets; on
null the outermost is called alone. -/
theorem chainWith_bracketing :
    chainWith bracketing 1 bracketed (some .null) {} ⟨[], []⟩ =
        ((.ok .null, {}), ⟨[⟨0, ['a', 'a'], .null⟩], []⟩) ∧
      (chainWith bracketing 2 bracketed none {} ⟨[], []⟩).1 =
        (.ok (.text ['[', '(', '<', 'x', '>', ')', ']']), ⟨[['a', 'a']]⟩) ∧
      (chainWith bracketing 2 bracketed none {} ⟨[], []⟩).2.world.map Call.name =
        [['c', 'c'], ['b', 'b'], ['a', 'a']] := by
  obtain ⟨hplain, -⟩ := chainWith_eq_innermostFirst bracketing bracketed (some .null) {} ⟨[], []⟩ 0
  obtain ⟨-, hchain⟩ := chainWith_eq_innermostFirst bracketing bracketed none {} ⟨[], []⟩ 0
  have hanswers : ∀ x rest, x :: rest <:+ belowBracketed → nestedText? (innermostFirst bracketing x rest
      (report (.chainResolved bracketed.command 3) (⟨[], []⟩ : Effects (List Call))).2).1 = none := by
    intro x rest hsuffix
    rcases List.suffix_cons_iff.mp hsuffix with h | hsuffix
    · cases h
      decide +kernel
    rcases List.suffix_cons_iff.mp hsuffix with h | hsuffix
    · cases h
      decide +kernel
    · cases List.suffix_nil.mp hsuffix
  obtain ⟨hrun, hrecord⟩ :=
    hchain _ belowBracketed ⟨[], []⟩ (by decide +kernel) rfl inwards_bracketed hanswers
  refine ⟨hplain rfl, ?_, ?_⟩
  · rw [hrun]
    rfl
  · rw [hrun]
    exact hrecord (List.map Call.name) takesDown_bracketing

end Directives.Directive
