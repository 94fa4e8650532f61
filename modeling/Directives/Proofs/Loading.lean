import Directives.Config.Load
import Directives.Proofs.Naming
import Directives.Proofs.Traverse

/-! What a loaded configuration is.

The file that is looked for is the one of the nearest directory, since the walk goes from the
working directory outwards and stops where it finds one (`discover_eq_some_iff`). What is read
is checked after its variables are expanded, so that a program that comes to nothing is found
(`loadFile_eq_ok_iff`). Settings come last and can only fail to be valid by their log level
(`load_guarantees`). -/
namespace Directives

namespace FileTree

/-! ### Paths from the root -/

/-- A step that leads from a directory to what has this name in it. -/
structure IsStep (step : Text) : Prop where
  ne_nil : step ≠ []
  ne_here : step ≠ ['.']
  ne_above : step ≠ ['.', '.']
  slash_notMem : '/' ∉ step

/-- Such steps lead from place to place by their names. -/
theorem walk_eq {tree : FileTree} {here found : Path} {steps : List Text} (h : ∀ step ∈ steps, IsStep step)
    (hfound : tree.walk here steps = .ok found) : found = here ++ steps := by
  induction steps generalizing here with
  | nil =>
    rw [walk] at hfound
    split at hfound
    · cases hfound
      exact (List.append_nil _).symm
    · cases hfound
  | cons step steps ih =>
    rw [List.forall_mem_cons] at h
    rw [walk] at hfound
    split at hfound
    · cases hfound
    · -- the step neither stays nor goes outwards
      rw [if_neg (by simp [h.1.ne_nil, h.1.ne_here]), if_neg h.1.ne_above] at hfound
      split at hfound
      · cases hfound
      · rw [ih h.2 hfound, List.append_assoc, List.singleton_append]
    · cases hfound

end FileTree

namespace Config

variable {tree : FileTree} {workingDirectory : Path} {env : Template.Valuation} {explicit : Option Text}
  {settings : Settings} {c : Config}

theorem steps_written {path : Path} (hne : path ≠ []) (h : ∀ step ∈ path, FileTree.IsStep step)
    (workingDirectory : Path) : FileTree.begin workingDirectory (written path) = ([], path) := by
  show ([], Text.splitOn '/' (Text.joined ['/'] path)) = _
  rw [Text.splitOn_joined hne fun step hstep => (h step hstep).slash_notMem]

/-- A path that is written from the root leads to its place. -/
theorem locate_written {path found : Path} (hne : path ≠ [])
    (h : ∀ step ∈ path, FileTree.IsStep step)
    (hfound : tree.locate workingDirectory (written path) = .ok found) : found = path := by
  unfold FileTree.locate at hfound
  split at hfound
  · cases hfound
  · split at hfound
    · cases hfound
    · rw [steps_written hne h] at hfound
      exact FileTree.walk_eq h hfound

/-! ### The nearest file -/

/-- The directory has a file of the name that is looked for. -/
def HasFile (tree : FileTree) (directory : Path) : Prop :=
  (tree.place? (directory ++ [fileName])).isSome = true

/-- Of a directory and those above it, the nearest one that has a configuration file. -/
structure Nearest (tree : FileTree) (workingDirectory directory : Path) : Prop where
  above : directory <+: workingDirectory
  hasFile : HasFile tree directory
  nearest : ∀ other, other <+: workingDirectory → HasFile tree other → other <+: directory

theorem Nearest.unique {directory other : Path}
    (h : Nearest tree workingDirectory directory) (hother : Nearest tree workingDirectory other) :
    directory = other :=
  (hother.nearest directory h.above h.hasFile).eq_of_length_le
    (h.nearest other hother.above hother.hasFile).length_le

/-- The walk outwards stops at the nearest file. -/
theorem nearest_of_discoverFrom {steps : List Text} {path : Path}
    (h : discoverFrom tree steps = some path) :
    ∃ directory, Nearest tree steps.reverse directory ∧ path = directory ++ [fileName] := by
  induction steps with
  | nil =>
    rw [discoverFrom] at h
    split at h
    next hfile =>
      cases h
      exact ⟨[], ⟨List.prefix_rfl, hfile, fun _ hother _ => hother⟩, rfl⟩
    next => cases h
  | cons step above ih =>
    rw [discoverFrom] at h
    split at h
    next hfile =>
      cases h
      exact ⟨(step :: above).reverse, ⟨List.prefix_rfl, hfile, fun _ hother _ => hother⟩, rfl⟩
    next hfile =>
      -- no file here, so that one further out is nearer than any other
      obtain ⟨directory, hnearest, rfl⟩ := ih h
      rw [List.reverse_cons]
      refine ⟨directory, ⟨hnearest.above.trans (List.prefix_append _ _), hnearest.hasFile, ?_⟩, rfl⟩
      intro other hother hhas
      rcases List.prefix_concat_iff.mp hother with rfl | hother
      · exact absurd hhas (List.reverse_cons ▸ hfile)
      · exact hnearest.nearest other hother hhas

/-- The walk outwards finds nothing only where no directory has a file. -/
theorem not_hasFile_of_discoverFrom {steps : List Text} (h : discoverFrom tree steps = none) :
    ∀ directory, directory <+: steps.reverse → ¬ HasFile tree directory := by
  induction steps with
  | nil =>
    rw [discoverFrom] at h
    split at h
    next => cases h
    next hfile =>
      intro directory habove
      rw [List.prefix_nil.mp habove]
      exact hfile
  | cons step above ih =>
    rw [discoverFrom] at h
    split at h
    next => cases h
    next hfile =>
      intro directory habove
      rw [List.reverse_cons] at habove
      rcases List.prefix_concat_iff.mp habove with rfl | habove
      · exact List.reverse_cons ▸ hfile
      · exact ih h directory habove

/-- What is found is the file of the nearest directory that has one. -/
theorem discover_eq_some_iff {path : Path} :
    discover tree workingDirectory = some path ↔
      ∃ directory, Nearest tree workingDirectory directory ∧ path = directory ++ [fileName] := by
  have hsome : ∀ {path}, discover tree workingDirectory = some path →
      ∃ directory, Nearest tree workingDirectory directory ∧ path = directory ++ [fileName] := fun h => by
    have hnearest := nearest_of_discoverFrom h
    rwa [List.reverse_reverse] at hnearest
  refine ⟨hsome, ?_⟩
  rintro ⟨directory, hnearest, rfl⟩
  cases hdiscover : discover tree workingDirectory with
  | some path =>
    obtain ⟨other, hother, rfl⟩ := hsome hdiscover
    rw [hnearest.unique hother]
  | none =>
    have hnone := not_hasFile_of_discoverFrom hdiscover directory (by simpa using hnearest.above)
    exact absurd hnearest.hasFile hnone

theorem discover_eq_none_iff :
    discover tree workingDirectory = none ↔
      ∀ directory, directory <+: workingDirectory → ¬ HasFile tree directory := by
  constructor
  · intro h
    have hnone := not_hasFile_of_discoverFrom h
    rwa [List.reverse_reverse] at hnone
  · intro h
    rw [Option.eq_none_iff_forall_ne_some]
    intro path hpath
    obtain ⟨directory, hnearest, -⟩ := discover_eq_some_iff.mp hpath
    exact h directory hnearest.above hnearest.hasFile

/-! ### Expansion -/

/-- A command of a file and the command with the variables in its program and arguments expanded. -/
structure Expands (env : Template.Valuation) (command expanded : Text × Invocation) : Prop where
  name_eq : expanded.1 = command.1
  program : Template.expand env command.2.program = .ok expanded.2.program
  args : List.Forall₂ (fun value result => Template.expand env value = .ok result)
    command.2.args expanded.2.args

theorem expandField_eq_ok_iff {field value result : Text} :
    expandField env field value = .ok result ↔ Template.expand env value = .ok result := by
  rw [expandField, mapError_eq_ok_iff]

theorem expandElements_eq_ok_iff {field : Text} {index : Nat} {values results : List Text} :
    expandElements env field index values = .ok results ↔
      List.Forall₂ (fun value result => Template.expand env value = .ok result) values results := by
  induction values generalizing index results with
  | nil =>
    rw [expandElements, List.forall₂_nil_left_iff]
    exact ⟨fun h => by cases h; rfl, fun h => by rw [h]⟩
  | cons value values ih =>
    simp only [expandElements, bind_eq_ok_iff, expandField_eq_ok_iff, ih, List.forall₂_cons_left_iff]
    constructor
    · rintro ⟨result, hresult, rest, hrest, h⟩
      cases h
      exact ⟨result, rest, hresult, hrest, rfl⟩
    · rintro ⟨result, rest, hresult, hrest, rfl⟩
      exact ⟨result, hresult, rest, hrest, rfl⟩

theorem expandCommand_eq_ok_iff {name : Text} {i result : Invocation} :
    expandCommand env name i = .ok result ↔ Expands env (name, i) (name, result) := by
  simp only [expandCommand, bind_eq_ok_iff, expandField_eq_ok_iff, expandElements_eq_ok_iff]
  constructor
  · rintro ⟨program, hprogram, args, hargs, h⟩
    cases h
    exact ⟨rfl, hprogram, hargs⟩
  · exact fun h => ⟨result.program, h.program, result.args, h.args, rfl⟩

/-- Expansion changes the commands, one by one, and nothing else. -/
theorem expand_eq_ok_iff {expanded : Config} :
    c.expand env = .ok expanded ↔
      List.Forall₂ (Expands env) c.commands expanded.commands ∧
        expanded = { c with commands := expanded.commands } := by
  have hstep : ∀ command result,
      (do return (command.1, ← expandCommand env command.1 command.2)) = Except.ok result ↔
        Expands env command result := by
    rintro ⟨name, i⟩ ⟨name', result⟩
    rw [bind_eq_ok_iff]
    constructor
    · rintro ⟨_, hresult, h⟩
      cases h
      exact expandCommand_eq_ok_iff.mp hresult
    · intro h
      cases h.name_eq
      exact ⟨result, expandCommand_eq_ok_iff.mpr h, rfl⟩
  rw [expand, bind_eq_ok_iff]
  simp only [mapM_eq_ok_iff, hstep]
  constructor
  · rintro ⟨commands, hcommands, h⟩
    cases h
    exact ⟨hcommands, rfl⟩
  · rintro ⟨hcommands, h⟩
    exact ⟨expanded.commands, hcommands, congrArg Except.ok h.symm⟩

/-! ### Validity -/

/-- What a configuration has to satisfy. -/
structure Valid (c : Config) : Prop where
  logLevel_mem : c.logLevel ∈ logLevels
  isCommandName : ∀ command ∈ c.commands, isCommandName command.1 = true
  program_ne_nil : ∀ command ∈ c.commands, command.2.program ≠ []

theorem validateLog_eq_ok_iff : c.validateLog = .ok () ↔ c.logLevel ∈ logLevels := by
  rw [validateLog]
  split
  next h => exact ⟨fun _ => List.elem_iff.mp h, fun _ => rfl⟩
  next h => exact ⟨nofun, fun hmem => absurd (List.elem_iff.mpr hmem) h⟩

theorem validate_eq_ok_iff : c.validate = .ok () ↔ c.Valid := by
  have hvalidate : c.validate = .ok () ↔ c.logLevel ∈ logLevels ∧
      ∀ command ∈ c.commands, isCommandName command.1 = true ∧ command.2.program ≠ [] := by
    rw [validate, check_bind_eq_ok_iff, validateLog_eq_ok_iff, forM_eq_ok_iff]
    simp only [validateCommand_eq_ok_iff]
  rw [hvalidate]
  constructor
  · rintro ⟨hlog, hcommands⟩
    exact ⟨hlog, fun command h => (hcommands command h).1, fun command h => (hcommands command h).2⟩
  · intro h
    exact ⟨h.logLevel_mem, fun command hmem => ⟨h.isCommandName command hmem, h.program_ne_nil command hmem⟩⟩

/-- Validity is of the settings and the commands, wherever they were read. -/
theorem valid_path_iff {path : Option Text} : Valid { c with path } ↔ c.Valid :=
  ⟨fun h => ⟨h.logLevel_mem, h.isCommandName, h.program_ne_nil⟩,
    fun h => ⟨h.logLevel_mem, h.isCommandName, h.program_ne_nil⟩⟩

/-- A valid configuration stays valid with a log level there is. -/
theorem Valid.apply (h : c.Valid)
    (hlevel : ∀ level ∈ settings.logLevel, level ∈ logLevels) : (c.apply settings).Valid where
  logLevel_mem := by
    show settings.logLevel.getD c.logLevel ∈ logLevels
    cases hset : settings.logLevel with
    | none => exact h.logLevel_mem
    | some level => exact hlevel level hset
  isCommandName := h.isCommandName
  program_ne_nil := h.program_ne_nil

/-! ### Loading -/

/-- A configuration is what a text says that was read at a path: TOML of a configuration, in whose
commands the variables are expanded. -/
def Says (env : Template.Valuation) (path text : Text) (c : Config) : Prop :=
  ∃ raw, ofToml? text = some raw ∧ List.Forall₂ (Expands env) raw.commands c.commands ∧
    c = { raw with commands := c.commands, path := some path }

/-- A file is loaded where its text says something that is valid once the variables are expanded. -/
theorem loadFile_eq_ok_iff {path : Text} :
    loadFile tree workingDirectory env path = .ok c ↔
      (∃ text, tree.read workingDirectory path = .ok text ∧ Says env path text c) ∧ c.Valid := by
  rw [loadFile, bind_eq_ok_iff]
  constructor
  · rintro ⟨text, htext, h⟩
    split at h
    next => cases h
    next raw hraw =>
      obtain ⟨expanded, hexpand, h⟩ := bind_eq_ok_iff.mp h
      obtain ⟨hvalid, h⟩ := check_bind_eq_ok_iff.mp h
      cases h
      obtain ⟨hcommands, hrest⟩ := expand_eq_ok_iff.mp hexpand
      have hsays : Says env path text { expanded with path := some path } :=
        ⟨raw, hraw, hcommands, congrArg (fun c => { c with path := some path }) hrest⟩
      exact ⟨⟨text, mapError_eq_ok_iff.mp htext, hsays⟩, valid_path_iff.mpr (validate_eq_ok_iff.mp hvalid)⟩
  · rintro ⟨⟨text, htext, raw, hraw, hcommands, hc⟩, hvalid⟩
    have hvalid : Valid { raw with commands := c.commands } :=
      valid_path_iff.mp ((congrArg Valid hc).mp hvalid)
    refine ⟨text, mapError_eq_ok_iff.mpr htext, ?_⟩
    simp only [hraw]
    exact bind_eq_ok_iff.mpr ⟨{ raw with commands := c.commands }, expand_eq_ok_iff.mpr ⟨hcommands, rfl⟩,
      check_bind_eq_ok_iff.mpr ⟨validate_eq_ok_iff.mpr hvalid, congrArg Except.ok hc.symm⟩⟩

/-- Where a configuration comes from: the file that is named, or else the file of the nearest
directory that has one, or else there is none and the configuration is the default. A working
directory being made of steps, the file that is found is read where it was found. -/
inductive Source (tree : FileTree) (workingDirectory : Path) (env : Template.Valuation) :
    Option Text → Config → Prop where
  | named {path text : Text} {c : Config} : tree.read workingDirectory path = .ok text →
      Says env path text c → Source tree workingDirectory env (some path) c
  | found {directory : Path} {text : Text} {c : Config} : Nearest tree workingDirectory directory →
      tree.read workingDirectory (written (directory ++ [fileName])) = .ok text →
      ((∀ step ∈ workingDirectory, FileTree.IsStep step) →
        tree.locate workingDirectory (written (directory ++ [fileName])) = .ok (directory ++ [fileName])) →
      Says env (written (directory ++ [fileName])) text c → Source tree workingDirectory env none c
  | default : (∀ directory, directory <+: workingDirectory → ¬ HasFile tree directory) →
      Source tree workingDirectory env none {}

theorem exists_locate_of_read {path text : Text}
    (h : tree.read workingDirectory path = .ok text) :
    ∃ found, tree.locate workingDirectory path = .ok found := by
  cases hlocate : tree.locate workingDirectory path with
  | ok found => exact ⟨found, rfl⟩
  | error reason =>
    rw [FileTree.read, FileTree.resolve, hlocate] at h
    cases h

theorem has_of_read {path text : Text}
    (h : tree.read workingDirectory path = .ok text) : tree.has workingDirectory path = true := by
  obtain ⟨found, hlocate⟩ := exists_locate_of_read h
  rw [FileTree.has, hlocate]

theorem isStep_fileName : FileTree.IsStep fileName where
  ne_nil := by decide
  ne_here := by decide
  ne_above := by decide
  slash_notMem := by decide

/-- The file of a directory that is made of steps is read where it stands. -/
theorem locate_of_read {directory : Path} {text : Text}
    (h : tree.read workingDirectory (written (directory ++ [fileName])) = .ok text)
    (hsteps : ∀ step ∈ directory, FileTree.IsStep step) :
    tree.locate workingDirectory (written (directory ++ [fileName])) = .ok (directory ++ [fileName]) := by
  obtain ⟨found, hlocate⟩ := exists_locate_of_read h
  have hall : ∀ step ∈ directory ++ [fileName], FileTree.IsStep step := by
    intro step hstep
    rcases List.mem_append.mp hstep with hstep | hstep
    · exact hsteps step hstep
    · exact List.mem_singleton.mp hstep ▸ isStep_fileName
  rw [hlocate, locate_written (List.append_ne_nil_of_right_ne_nil _ (List.cons_ne_nil _ _)) hall hlocate]

theorem valid_default : Valid {} where
  logLevel_mem := by decide
  isCommandName := nofun
  program_ne_nil := nofun

/-- What is loaded before the settings is what its source says, if that is valid. -/
theorem loadBase_eq_ok_iff :
    loadBase tree workingDirectory env explicit = .ok c ↔
      Source tree workingDirectory env explicit c ∧ c.Valid := by
  cases explicit with
  | some path =>
    constructor
    · intro h
      simp only [loadBase] at h
      split at h
      · obtain ⟨⟨text, htext, hsays⟩, hvalid⟩ := loadFile_eq_ok_iff.mp h
        exact ⟨.named htext hsays, hvalid⟩
      · cases h
    · rintro ⟨⟨htext, hsays⟩, hvalid⟩
      simp only [loadBase, has_of_read htext]
      exact loadFile_eq_ok_iff.mpr ⟨⟨_, htext, hsays⟩, hvalid⟩
  | none =>
    constructor
    · intro h
      simp only [loadBase] at h
      split at h
      next path hpath =>
        obtain ⟨directory, hnearest, rfl⟩ := discover_eq_some_iff.mp hpath
        obtain ⟨⟨text, htext, hsays⟩, hvalid⟩ := loadFile_eq_ok_iff.mp h
        have hleads := fun hsteps : ∀ step ∈ workingDirectory, FileTree.IsStep step =>
          locate_of_read htext fun step hstep => hsteps step (hnearest.above.subset hstep)
        exact ⟨.found hnearest htext hleads hsays, hvalid⟩
      next hnone =>
        cases h
        exact ⟨.default (discover_eq_none_iff.mp hnone), valid_default⟩
    · rintro ⟨hsource, hvalid⟩
      cases hsource with
      | found hnearest htext _ hsays =>
        simp only [loadBase, discover_eq_some_iff.mpr ⟨_, hnearest, rfl⟩]
        exact loadFile_eq_ok_iff.mpr ⟨⟨_, htext, hsays⟩, hvalid⟩
      | default hnone => simp only [loadBase, discover_eq_none_iff.mpr hnone]

/-! ### Settings -/

/-- A configuration with settings over it: the fields that they give are theirs, and all else is
as it was. -/
structure Overridden (settings : Settings) (base c : Config) : Prop where
  chain_eq : c.chain = settings.chain.getD base.chain
  stripTabs_eq : c.stripTabs = settings.stripTabs.getD base.stripTabs
  logLevel_eq : c.logLevel = settings.logLevel.getD base.logLevel
  commands_eq : c.commands = base.commands
  path_eq : c.path = base.path

theorem overridden_apply (settings : Settings) (c : Config) : Overridden settings c (c.apply settings) :=
  ⟨rfl, rfl, rfl, rfl, rfl⟩

theorem load_without :
    load tree workingDirectory env explicit {} = loadBase tree workingDirectory env explicit := by
  rw [load]
  cases loadBase tree workingDirectory env explicit <;> rfl

theorem load_eq_ok_iff :
    load tree workingDirectory env explicit settings = .ok c ↔
      ∃ base, loadBase tree workingDirectory env explicit = .ok base ∧ base.apply settings = c := by
  rw [load]
  cases loadBase tree workingDirectory env explicit with
  | error e => exact ⟨nofun, nofun⟩
  | ok base =>
    constructor
    · intro h
      cases h
      exact ⟨base, rfl, rfl⟩
    · rintro ⟨_, hbase, h⟩
      cases hbase
      exact congrArg Except.ok h

theorem load_eq_error_iff {e : Error} :
    load tree workingDirectory env explicit settings = .error e ↔
      loadBase tree workingDirectory env explicit = .error e := by
  rw [load]
  cases loadBase tree workingDirectory env explicit with
  | error e' => exact ⟨fun h => by cases h; rfl, fun h => by cases h; rfl⟩
  | ok base => exact ⟨nofun, nofun⟩

/-- **What a loaded configuration is.** It is valid, its variables expanded and its settings applied.
It comes from the file that is named, or else from the nearest file there is, or is the default;
the settings change the fields that they give and no others, and whether there is a configuration
at all does not depend on them. -/
theorem load_guarantees (hlevel : ∀ level ∈ settings.logLevel, level ∈ logLevels) :
    (∀ c, load tree workingDirectory env explicit settings = .ok c →
      c.validate = .ok () ∧ c.Valid ∧
      ∃ base, load tree workingDirectory env explicit {} = .ok base ∧
        Source tree workingDirectory env explicit base ∧ Overridden settings base c) ∧
    ∀ e, load tree workingDirectory env explicit settings = .error e ↔
      load tree workingDirectory env explicit {} = .error e := by
  constructor
  · intro c h
    obtain ⟨base, hbase, rfl⟩ := load_eq_ok_iff.mp h
    obtain ⟨hsource, hvalid⟩ := loadBase_eq_ok_iff.mp hbase
    have hvalid' := hvalid.apply hlevel
    exact ⟨validate_eq_ok_iff.mpr hvalid', hvalid', base, load_without.trans hbase, hsource,
      overridden_apply settings base⟩
  · intro e
    rw [load_eq_error_iff, load_without]

/-- Below a directory that has a file it is found before the one at the root, and its log level gives way
to that of the settings. -/
theorem load_guarantees_above :
    let text := "[log]\nlevel = 'info'\n[commands.shout]\nprogram = '$\x7bUPPER:-tr\x7d'".toList
    let tree : FileTree :=
      { files := [(["quill.toml".toList], []), (["site".toList, "quill.toml".toList], Utf8.encode text)]
        directories := [["site".toList, "docs".toList]] }
    let workingDirectory := ["site".toList, "docs".toList]
    let settings : Settings := { logLevel := some "debug".toList }
    let loaded (level : Text) : Config :=
      { logLevel := level, commands := [("shout".toList, ⟨"tr".toList, []⟩)]
        path := some "/site/quill.toml".toList }
    load tree workingDirectory (fun _ => none) none settings = .ok (loaded "debug".toList) ∧
      (loaded "debug".toList).validate = .ok () ∧
      Source tree workingDirectory (fun _ => none) none (loaded "info".toList) ∧
      Overridden settings (loaded "info".toList) (loaded "debug".toList) := by
  intro text tree workingDirectory settings loaded
  have hload : load tree workingDirectory (fun _ => none) none settings = .ok (loaded "debug".toList) := by
    decide +kernel
  have hplain : load tree workingDirectory (fun _ => none) none {} = .ok (loaded "info".toList) := by
    decide +kernel
  obtain ⟨hvalid, -, base, hbase, hsource, hover⟩ := (load_guarantees (by decide)).1 _ hload
  cases hbase.symm.trans hplain
  exact ⟨hload, hvalid, hsource, hover⟩

end Config
end Directives
