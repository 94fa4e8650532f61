import Directives.Group
import Mathlib.Data.List.Induction
import Mathlib.Data.List.Nodup

/-! What a group has of a command.

Directives come into a group one at a time, each behind the others of its command, so
that an entry is the directives of its command in their order (`exists_entry`). A command
that is new comes behind the others, and every directive makes the entries longer by one:
a group is the list it was made from, cut by command and nothing lost
(`indexes_ofList`). -/
namespace Directives

variable {σ : Type}

namespace Group

/-- The directives of a command, none where it has no entry. -/
def listed (entries : List (Text × Entry σ)) (name : Text) : List (Directive σ) :=
  ((entries.lookup name).map Entry.toList).getD []

theorem listed_cons (key name : Text) (entry : Entry σ) (entries : List (Text × Entry σ)) :
    listed ((key, entry) :: entries) name = if name = key then entry.toList else listed entries name := by
  by_cases h : name = key
  · subst h
    simp [listed]
  · have hbeq : (name == key) = false := by simp [h]
    simp [listed, List.lookup_cons, hbeq, h]

theorem listed_insert (d : Directive σ) (entries : List (Text × Entry σ)) (name : Text) :
    listed (insert d entries) name = listed entries name ++ [d].filter (·.command = name) := by
  induction entries with
  | nil =>
    rw [insert, listed_cons]
    by_cases h : name = d.command
    · subst h
      simp [listed, Entry.toList]
    · simp [listed, h, Ne.symm h]
  | cons pair entries ih =>
    obtain ⟨key, entry⟩ := pair
    rw [insert]
    by_cases hkey : key = d.command
    · rw [if_pos hkey, listed_cons, listed_cons, Entry.toList_push]
      by_cases h : name = key
      · subst h
        simp [hkey]
      · have hne : d.command ≠ name := fun he => h (he.symm.trans hkey.symm)
        simp [h, hne]
    · rw [if_neg hkey, listed_cons, listed_cons, ih]
      by_cases h : name = key
      · subst h
        simp [Ne.symm hkey]
      · simp [h]

/-- The entries of a group have all directives of each command in their order. -/
theorem listed_ofList (directives : List (Directive σ)) (name : Text) :
    listed (ofList directives).entries name = directives.filter (·.command = name) := by
  suffices hfold : ∀ entries, listed (directives.foldl (fun entries d => insert d entries) entries) name =
      listed entries name ++ directives.filter (·.command = name) from hfold []
  induction directives with
  | nil => simp
  | cons d directives ih =>
    intro entries
    rw [List.foldl_cons, ih, listed_insert, List.append_assoc, ← List.filter_append]
    rfl

/-- An entry is the directives of its command in their order. -/
theorem toList_of_get? {directives : List (Directive σ)} {name : Text} {entry : Entry σ}
    (h : (ofList directives).get? name = some entry) :
    entry.toList = directives.filter (·.command = name) := by
  have hlisted := listed_ofList directives name
  unfold listed at hlisted
  rwa [show (ofList directives).entries.lookup name = some entry from h] at hlisted

/-- The command of a directive has an entry: the directives of the command in their order. -/
theorem exists_entry {directives : List (Directive σ)} {d : Directive σ} (h : d ∈ directives) :
    ∃ entry, (ofList directives).get? d.command = some entry ∧
      entry.toList = directives.filter (·.command = d.command) := by
  cases hget : (ofList directives).get? d.command with
  | some entry => exact ⟨entry, rfl, toList_of_get? hget⟩
  | none =>
    have hlisted := listed_ofList directives d.command
    unfold listed at hlisted
    rw [show (ofList directives).entries.lookup d.command = none from hget] at hlisted
    have hmem : d ∈ directives.filter (·.command = d.command) := List.mem_filter.mpr ⟨h, by simp⟩
    rw [← hlisted] at hmem
    cases hmem

/-! ### Names and sizes -/

/-- The sizes of entries, added up. -/
def total : List (Entry σ) → Nat
  | [] => 0
  | entry :: entries => entry.size + total entries

/-- A new command comes behind the others. -/
theorem keys_insert (d : Directive σ) (entries : List (Text × Entry σ)) :
    (insert d entries).map (·.1) =
      if d.command ∈ entries.map (·.1) then entries.map (·.1) else entries.map (·.1) ++ [d.command] := by
  induction entries with
  | nil => rfl
  | cons pair entries ih =>
    obtain ⟨key, entry⟩ := pair
    rw [insert]
    by_cases hkey : key = d.command
    · simp [hkey]
    · have hmem : d.command ∈ ((key, entry) :: entries).map (·.1) ↔ d.command ∈ entries.map (·.1) := by
        simp [Ne.symm hkey]
      rw [if_neg hkey, List.map_cons, ih]
      simp only [hmem]
      split <;> rfl

/-- The entries have one directive more. -/
theorem total_insert (d : Directive σ) (entries : List (Text × Entry σ)) :
    total ((insert d entries).map (·.2)) = total (entries.map (·.2)) + 1 := by
  induction entries with
  | nil => rfl
  | cons pair entries ih =>
    obtain ⟨key, entry⟩ := pair
    rw [insert]
    split
    · simp only [List.map_cons, total, Entry.size, Entry.toList_push, List.length_append,
        List.length_singleton]
      omega
    · simp only [List.map_cons, total, ih]
      omega

theorem ofList_concat (directives : List (Directive σ)) (d : Directive σ) :
    (ofList (directives ++ [d])).entries = insert d (ofList directives).entries := by
  simp [ofList]

/-- The names are the commands, each where it first occurs. -/
theorem names_ofList (directives : List (Directive σ)) :
    (ofList directives).names = (directives.map (·.command)).eraseDups := by
  induction directives using List.reverseRecOn with
  | nil => rfl
  | append_singleton directives d ih =>
    have hkeys := keys_insert d (ofList directives).entries
    rw [← ofList_concat, show (ofList directives).entries.map (·.1) = _ from ih] at hkeys
    rw [names, hkeys, List.map_append, List.eraseDups_append, List.removeAll, List.map_singleton]
    by_cases hmem : d.command ∈ directives.map (·.command)
    · have hnone : [d.command].filter (fun name => !(directives.map (·.command)).elem name) = [] :=
        List.filter_cons_of_neg (by simpa using hmem)
      rw [if_pos (List.mem_eraseDups.mpr hmem), hnone]
      exact (List.append_nil _).symm
    · have hnew : [d.command].filter (fun name => !(directives.map (·.command)).elem name) = [d.command] :=
        List.filter_cons_of_pos (by simpa using hmem)
      rw [if_neg (List.mem_eraseDups.not.mpr hmem), hnew]
      rfl

theorem nodup_names (directives : List (Directive σ)) : (ofList directives).names.Nodup := by
  induction directives using List.reverseRecOn with
  | nil => exact List.nodup_nil
  | append_singleton directives d ih =>
    rw [names, ofList_concat, keys_insert]
    split
    next => exact ih
    next hmem => exact List.concat_eq_append ▸ ih.concat hmem

theorem total_ofList (directives : List (Directive σ)) :
    total ((ofList directives).entries.map (·.2)) = directives.length := by
  induction directives using List.reverseRecOn with
  | nil => rfl
  | append_singleton directives d ih =>
    rw [ofList_concat, total_insert, ih, List.length_append, List.length_singleton]

end Group

/-! ### The index -/

namespace Entry

/-- An entry has a first directive, and it is the first of them. -/
theorem head?_toList (e : Entry σ) : e.toList.head? = some e.first := by
  cases e <;> rfl

theorem eq_single_iff {e : Entry σ} {d : Directive σ} : e = .single d ↔ e.toList = [d] := by
  cases e <;> simp [toList]

theorem eq_many_iff {e : Entry σ} {first second : Directive σ} {rest : List (Directive σ)} :
    e = .many first second rest ↔ e.toList = first :: second :: rest := by
  cases e <;> simp [toList]

end Entry

namespace Group

/-- What an index of directives by command has: the directives themselves, every command
once where it first occurs, and for each the entry of its directives. -/
structure Indexes (g : Group σ) (directives : List (Directive σ)) : Prop where
  directives_eq : g.directives = directives
  names_eq : g.names = (directives.map (·.command)).eraseDups
  nodup_names : g.names.Nodup
  isSome_get?_iff : ∀ name, (g.get? name).isSome = true ↔ ∃ d ∈ directives, d.command = name
  toList_eq : ∀ name entry, g.get? name = some entry →
    entry.toList = directives.filter (·.command = name)
  head?_eq : ∀ name entry, g.get? name = some entry →
    (directives.filter (·.command = name)).head? = some entry.first
  single_iff : ∀ name entry, g.get? name = some entry →
    ∀ d, entry = .single d ↔ directives.filter (·.command = name) = [d]
  many_iff : ∀ name entry, g.get? name = some entry →
    ∀ first second rest, entry = .many first second rest ↔
      directives.filter (·.command = name) = first :: second :: rest
  total_eq : total (g.names.filterMap g.get?) = g.size

/-- Where the names are distinct, each has the entry that stands with it. -/
theorem get?_of_mem {g : Group σ} (h : g.names.Nodup) {pair : Text × Entry σ} (hmem : pair ∈ g.entries) :
    g.get? pair.1 = some pair.2 := by
  obtain ⟨before, after, hsplit⟩ := List.append_of_mem hmem
  refine List.lookup_eq_some_iff.mpr ⟨before, after, hsplit, fun other hother => ?_⟩
  rw [names, hsplit, List.map_append, List.map_cons] at h
  have hne := (List.nodup_append.mp h).2.2 other.1 (List.mem_map_of_mem hother) pair.1 (List.mem_cons_self ..)
  simpa using Ne.symm hne

/-- Looking up the names gives the entries. -/
theorem filterMap_get? {g : Group σ} (h : g.names.Nodup) :
    g.names.filterMap g.get? = g.entries.map (·.2) := by
  rw [names, List.filterMap_map, ← List.filterMap_eq_map]
  exact List.filterMap_congr fun pair => get?_of_mem h

/-- **A group is an index that loses nothing.** It keeps the directives as they are. Its
names are their commands, each once and where it first occurs; a command has an entry
where a directive calls it, and the entry is the directives that do, in their order and
of the form that their number asks for. Together the entries are as long as the list. -/
theorem indexes_ofList (directives : List (Directive σ)) :
    (ofList directives).Indexes directives where
  directives_eq := rfl
  names_eq := names_ofList directives
  nodup_names := nodup_names directives
  isSome_get?_iff name := by
    constructor
    · intro hsome
      obtain ⟨entry, hget⟩ := Option.isSome_iff_exists.mp hsome
      have hfirst := entry.head?_toList
      rw [toList_of_get? hget] at hfirst
      have hmem := List.mem_filter.mp (List.mem_of_mem_head? hfirst)
      exact ⟨entry.first, hmem.1, by simpa using hmem.2⟩
    · rintro ⟨d, hd, rfl⟩
      obtain ⟨entry, hget, -⟩ := exists_entry hd
      rw [hget]
      rfl
  toList_eq _ _ := toList_of_get?
  head?_eq _ entry hget := toList_of_get? hget ▸ entry.head?_toList
  single_iff _ _ hget _ := toList_of_get? hget ▸ Entry.eq_single_iff
  many_iff _ _ hget _ _ _ := toList_of_get? hget ▸ Entry.eq_many_iff
  total_eq := by
    rw [filterMap_get? (nodup_names directives)]
    exact total_ofList directives

end Group
end Directives
