import Directives.Proofs.Json.Lexemes

/-! JSON values that are written and read back.

Reading takes the lexemes of a value in as many steps as there are and comes out with the
value in its place (`run_lexemes`): an item goes behind the items before it, a member
behind the members, and as they were in order they are put where they were. So a value
with integers for its numbers is what its compact text denotes (`ofJson?_compact`). -/
namespace Directives

/-! ### Order of members -/

namespace Text

theorem le_antisymm {s t : Text} (hst : le s t = true) (hts : le t s = true) : s = t := by
  induction s generalizing t with
  | nil =>
    cases t with
    | nil => rfl
    | cons d t => cases hts
  | cons c s ih =>
    cases t with
    | nil => cases hst
    | cons d t =>
      simp only [le, Bool.or_eq_true, Bool.and_eq_true, decide_eq_true_eq] at hst hts
      rcases hst with hlt | ⟨rfl, hst⟩
      · rcases hts with hgt | ⟨rfl, -⟩
        · exact absurd hgt (Char.lt_asymm hlt)
        · exact absurd hlt (Char.lt_irrefl _)
      · rcases hts with hlt | ⟨-, hts⟩
        · exact absurd hlt (Char.lt_irrefl _)
        · rw [ih hst hts]

/-- The first text comes before the second. -/
def Before (s t : Text) : Prop :=
  le s t = true ∧ s ≠ t

end Text

namespace Value

/-- If the value is an object, its members are in the order of their keys, each key once. -/
def IsOrdered (v : Value) : Prop :=
  ∀ members, v = .object members → members.Pairwise fun a b => Text.Before a.1 b.1

/-- All objects in the value have their members in order. -/
def Ordered (v : Value) : Prop :=
  v.All IsOrdered

/-- A member whose key comes last is put behind the others. -/
theorem insertMember_of_before {key : Text} {v : Value} {members : List (Text × Value)}
    (h : ∀ m ∈ members, Text.Before m.1 key) : insertMember key v members = members ++ [(key, v)] := by
  induction members with
  | nil => rfl
  | cons m members ih =>
    obtain ⟨hle, hne⟩ := h m (List.mem_cons_self ..)
    have hnot : ¬ Text.le key m.1 = true := fun hge => hne (Text.le_antisymm hle hge)
    rw [insertMember, if_neg (Ne.symm hne), if_neg hnot, ih fun m hm => h m (List.mem_cons_of_mem _ hm)]
    rfl

/-- Members in order make an object as they are. -/
theorem ofMembers_eq {members : List (Text × Value)}
    (h : members.Pairwise fun a b => Text.Before a.1 b.1) : ofMembers members = .object members := by
  suffices hfold : ∀ before : List (Text × Value),
      (before ++ members).Pairwise (fun a b => Text.Before a.1 b.1) →
        members.foldl (fun sorted m => insertMember m.1 m.2 sorted) before = before ++ members from
    congrArg Value.object (hfold [] h)
  clear h
  induction members with
  | nil => exact fun before _ => (List.append_nil before).symm
  | cons m members ih =>
    intro before h
    have hm : ∀ a ∈ before, Text.Before a.1 m.1 :=
      fun a ha => (List.pairwise_append.mp h).2.2 a ha m (List.mem_cons_self ..)
    have hfold := ih (before ++ [m]) (by simpa using h)
    rw [← insertMember_of_before hm] at hfold
    rw [List.foldl_cons, hfold, insertMember_of_before hm, List.append_assoc, List.singleton_append]

/-! ### Depth -/

mutual

/-- How many arrays and objects stand inside each other at most. -/
def depth : Value → Nat
  | .array items => depthItems items + 1
  | .object members => depthMembers members + 1
  | _ => 0

/-- The depth of the deepest item. -/
def depthItems : List Value → Nat
  | [] => 0
  | v :: items => max v.depth (depthItems items)

/-- The depth of the deepest member. -/
def depthMembers : List (Text × Value) → Nat
  | [] => 0
  | (_, v) :: members => max v.depth (depthMembers members)

end

end Value

/-! ### Reading lexemes -/

namespace Read.Machine

theorem run_of_step {m m' : Machine} {l : Lexeme} (h : m.step l = some m') (ls : List Lexeme) :
    m.run (l :: ls) = m'.run ls := by
  rw [run, h]
  rfl

theorem step_scalar {m : Machine} (hm : m.expectsValue = true) (v : Value) :
    m.step (.scalar v) = some (deliver m.frames v) :=
  if_pos hm

theorem step_string {m : Machine} (hm : m.expectsValue = true) (s : Text) :
    m.step (.string s) = some (deliver m.frames (.text s)) :=
  if_pos hm

/-- The machine expects the key of a member. -/
def expectsKey (m : Machine) : Bool :=
  m.expects == .key || m.expects == .keyOrEnd

/-- A key and a colon are passed over, and the value of the member is expected. -/
theorem run_key {m : Machine} {before : List (Text × Value)} {old : Text} {frames : List Frame}
    (hkey : m.expectsKey = true) (hframes : m.frames = .members before old :: frames) (k : Text)
    (ls : List Lexeme) :
    m.run (.string k :: .colon :: ls) = Machine.run ⟨.value, .members before k :: frames, .null⟩ ls := by
  have hvalue : m.expectsValue = false := by
    cases hexpects : m.expects <;> simp_all [expectsKey, expectsValue]
  have hstring : m.step (.string k) = some ⟨.colon, .members before k :: frames, .null⟩ := by
    simp only [expectsKey] at hkey
    simp only [step, hvalue, hkey, hframes]
    rfl
  rw [run_of_step hstring, run_of_step rfl]

mutual

/-- Where a value may stand, its lexemes are read and the value is delivered. -/
theorem run_lexemes : ∀ (v : Value) {m : Machine} (ls : List Lexeme), v.Ordered →
    m.expectsValue = true → m.frames.length + v.depth < depthLimit →
      m.run (v.lexemes ++ ls) = (deliver m.frames v).run ls
  | .null, _, ls, _, hm, _ | .bool _, _, ls, _, hm, _ | .number _, _, ls, _, hm, _ =>
    run_of_step (step_scalar hm _) ls
  | .text s, _, ls, _, hm, _ => run_of_step (step_string hm s) ls
  | .array items, m, ls, hv, hm, hdepth => by
    rw [Value.depth] at hdepth
    have hopen : m.step .openArray = some ⟨.itemOrEnd, .items [] :: m.frames, .null⟩ := by
      rw [step, if_pos hm, opened, if_pos (by omega)]
    rw [Value.lexemes, List.cons_append, List.append_assoc, run_of_step hopen]
    cases items with
    | nil => exact run_of_step rfl ls
    | cons v items =>
      have hinside : m.frames.length + 1 + Value.depthItems (v :: items) < depthLimit := by omega
      exact run_items (m := ⟨.itemOrEnd, .items [] :: m.frames, .null⟩) (v :: items) ls
        (List.cons_ne_nil v items) hv.2 rfl rfl hinside
  | .object members, m, ls, hv, hm, hdepth => by
    rw [Value.depth] at hdepth
    have hopen : m.step .openObject = some ⟨.keyOrEnd, .members [] [] :: m.frames, .null⟩ := by
      rw [step, if_pos hm, opened, if_pos (by omega)]
    rw [Value.lexemes, List.cons_append, List.append_assoc, run_of_step hopen,
      ← Value.ofMembers_eq (hv.1 members rfl)]
    cases members with
    | nil => exact run_of_step rfl ls
    | cons member members =>
      have hinside : m.frames.length + 1 + Value.depthMembers (member :: members) < depthLimit := by omega
      exact run_members (m := ⟨.keyOrEnd, .members [] [] :: m.frames, .null⟩) (member :: members) ls
        (List.cons_ne_nil member members) hv.2 rfl rfl hinside

/-- The items of an array are read behind those before them. -/
theorem run_items : ∀ (items : List Value) {m : Machine} {before : List Value} {frames : List Frame}
    (ls : List Lexeme), items ≠ [] → Value.AllItems Value.IsOrdered items → m.expectsValue = true →
      m.frames = .items before :: frames → frames.length + 1 + Value.depthItems items < depthLimit →
        m.run (Value.itemLexemes items ++ .closeArray :: ls) =
          (deliver frames (.array (before.reverse ++ items))).run ls
  | [], _, _, _, _, hne, _, _, _, _ => absurd rfl hne
  | [v], m, before, frames, ls, _, hitems, hm, hframes, hdepth => by
    rw [Value.depthItems] at hdepth
    rw [Value.itemLexemes, run_lexemes v _ hitems.1 hm (by rw [hframes, List.length_cons]; omega), hframes]
    rw [show before.reverse ++ [v] = (v :: before).reverse by simp]
    exact run_of_step rfl ls
  | v :: w :: items, m, before, frames, ls, _, hitems, hm, hframes, hdepth => by
    rw [Value.depthItems] at hdepth
    rw [Value.itemLexemes, List.append_assoc, List.cons_append,
      run_lexemes v _ hitems.1 hm (by rw [hframes, List.length_cons]; omega), hframes]
    rw [show before.reverse ++ v :: w :: items = (v :: before).reverse ++ w :: items by simp]
    have hcomma : step (deliver (.items before :: frames) v) .comma =
        some ⟨.value, .items (v :: before) :: frames, .null⟩ := rfl
    rw [run_of_step hcomma]
    exact run_items (w :: items) ls (List.cons_ne_nil w items) hitems.2 rfl rfl (by omega)

/-- The members of an object are read behind those before them. -/
theorem run_members : ∀ (members : List (Text × Value)) {m : Machine} {before : List (Text × Value)}
    {old : Text} {frames : List Frame} (ls : List Lexeme), members ≠ [] →
      Value.AllMembers Value.IsOrdered members → m.expectsKey = true →
        m.frames = .members before old :: frames →
          frames.length + 1 + Value.depthMembers members < depthLimit →
            m.run (Value.memberLexemes members ++ .closeObject :: ls) =
              (deliver frames (.ofMembers (before.reverse ++ members))).run ls
  | [], _, _, _, _, _, hne, _, _, _, _ => absurd rfl hne
  | [(k, v)], m, before, _, frames, ls, _, hmembers, hm, hframes, hdepth => by
    rw [Value.depthMembers] at hdepth
    rw [Value.memberLexemes, List.cons_append, List.cons_append, run_key hm hframes,
      run_lexemes v _ hmembers.1 rfl (by rw [List.length_cons]; omega)]
    rw [show before.reverse ++ [(k, v)] = ((k, v) :: before).reverse by simp]
    exact run_of_step rfl ls
  | (k, v) :: next :: members, m, before, _, frames, ls, _, hmembers, hm, hframes, hdepth => by
    rw [Value.depthMembers] at hdepth
    rw [Value.memberLexemes, List.cons_append, List.cons_append, List.append_assoc, List.cons_append,
      run_key hm hframes, run_lexemes v _ hmembers.1 rfl (by rw [List.length_cons]; omega)]
    rw [show before.reverse ++ (k, v) :: next :: members = ((k, v) :: before).reverse ++ next :: members by simp]
    have hcomma : step (deliver (.members before k :: frames) v) .comma =
        some ⟨.key, .members ((k, v) :: before) [] :: frames, .null⟩ := rfl
    rw [run_of_step hcomma]
    exact run_members (next :: members) ls (List.cons_ne_nil next members) hmembers.2 rfl rfl (by omega)

end

end Read.Machine

/-- A value with integers for its numbers that does not nest too deep is what its compact text
denotes. -/
theorem Value.ofJson?_compact {v : Value} (hordered : v.Ordered) (hintegral : v.Integral)
    (hdepth : v.depth < Read.depthLimit) : ofJson? v.compact = some v := by
  have hlexed := Read.lexed_compact v hintegral Decimal.ends_nil Read.lexed_nil
  rw [List.append_nil, List.append_nil] at hlexed
  have hrun := Read.Machine.run_lexemes v (m := .start) [] hordered rfl ((Nat.zero_add v.depth).symm ▸ hdepth)
  rw [List.append_nil] at hrun
  simp only [ofJson?, hlexed _ (Nat.le_refl _), hrun, Option.bind_eq_bind, Option.bind_some]
  rfl

end Directives
