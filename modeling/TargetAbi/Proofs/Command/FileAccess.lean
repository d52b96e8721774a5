import TargetAbi.Program
import TargetAbi.Proofs.Command.Template

/-!
# What commands read

Which part of the file system a command depends on, said by comparing two file systems. A command
that its other arguments already decide (`IsFileFree`) does the same in all of them; this fixes that
the format, the element type and the choice of the target are checked before a file is looked at.
Any other command is given one path (`IsGivenFile`) and does the same wherever that path leads to
the same. These are all commands, and the condition is exact: a command that is not free of files
does something else when its path leads elsewhere (`runOn_reads_given_file_only`). The whole program
depends on no more of the file system than the path that its arguments ask for
(`runProgramOn_congr`).
-/

set_option autoImplicit false

namespace TargetAbi

/-! ## Loading -/

theorem Config.load_congr {files files' : FileSystem} {path : String}
    (h : files path = files' path) : Config.load files path = Config.load files' path := by
  simp only [Config.load, FileSystem.readText, h]

theorem Config.load_of_missing {files : FileSystem} {path : String} (h : files path = .missing) :
    Config.load files path = .error (.notFound path) := by
  simp only [Config.load, FileSystem.readText, h]

theorem Config.load_of_directory {files : FileSystem} {path : String}
    (h : files path = .directory) : Config.load files path = .error (.io .isDirectory) := by
  simp only [Config.load, FileSystem.readText, h]

/-- The names of the formats. -/
def DescriptionFormat.names : List String := ["human", "toml", "json"]

/-- Exactly the three names of formats are accepted, and no name at all. -/
theorem DescriptionFormat.parse_eq_error_iff {format : Option String} {e : CommandError} :
    DescriptionFormat.parse format = .error e ↔
      ∃ name, format = some name ∧ name ∉ names ∧ e = .unknownFormat name := by
  cases format with
  | none => simp [DescriptionFormat.parse]
  | some name =>
    simp only [DescriptionFormat.parse, names, List.mem_cons, List.not_mem_nil, or_false, not_or,
      Option.some.injEq, exists_eq_left']
    split_ifs with hhuman htoml hjson
    · simp [hhuman]
    · simp [htoml]
    · simp [hjson]
    · simp [hhuman, htoml, hjson, eq_comm]

namespace Command

variable {order : ByteOrder} {files files' : FileSystem} {c : Command} {path : String}
  {preset config format : Option String} {size : UInt64} {element : String}

/-! ## Commands with and without a file -/

/-- A choice of the target that leads to no file: without a path, or with a path and a name. -/
inductive SelectsNoFile : (preset config : Option String) → Prop
  | preset (name : String) : SelectsNoFile (some name) none
  | nothing : SelectsNoFile none none
  | both (name path : String) : SelectsNoFile (some name) (some path)

/-- A command that is decided without a file. A check of a vector type and a description are decided
so when their target is in no file, and also when their first argument is wrong. -/
inductive IsFileFree : Command → Prop
  | list : IsFileFree .list
  | template (preset : String) : IsFileFree (.template preset)
  | paint (value source target : String) : IsFileFree (.paint value source target)
  | describe {preset config : Option String} (format : Option String) :
      SelectsNoFile preset config → IsFileFree (.describe preset config format)
  | unknownFormat (preset config : Option String) {format : String} :
      format ∉ DescriptionFormat.names → IsFileFree (.describe preset config (some format))
  | vector (size : UInt64) (element : String) {preset config : Option String} :
      SelectsNoFile preset config → IsFileFree (.vector size element preset config)
  | unknownElement (size : UInt64) {element : String} (preset config : Option String) :
      (∀ t : BasicType, ¬ t.IsNamed element) → IsFileFree (.vector size element preset config)

/-- A command that is given the path of a file, and no preset beside it. -/
inductive IsGivenFile : Command → String → Prop
  | validate (path : String) : IsGivenFile (.validate path) path
  | describe (path : String) (format : Option String) :
      IsGivenFile (.describe none (some path) format) path
  | vector (size : UInt64) (element : String) (path : String) :
      IsGivenFile (.vector size element none (some path)) path

theorem selectsNoFile_or_eq (preset config : Option String) :
    SelectsNoFile preset config ∨ ∃ path, preset = none ∧ config = some path := by
  cases preset with
  | some name =>
    cases config with
    | none => exact Or.inl (.preset name)
    | some path => exact Or.inl (.both name path)
  | none =>
    cases config with
    | none => exact Or.inl .nothing
    | some path => exact Or.inr ⟨path, rfl, rfl⟩

/-- There are no other commands. -/
theorem isFileFree_or_isGivenFile (c : Command) : c.IsFileFree ∨ ∃ path, c.IsGivenFile path := by
  cases c with
  | list => exact Or.inl .list
  | template preset => exact Or.inl (.template preset)
  | paint value source target => exact Or.inl (.paint value source target)
  | validate path => exact Or.inr ⟨path, .validate path⟩
  | describe preset config format =>
    rcases selectsNoFile_or_eq preset config with hnone | ⟨path, rfl, rfl⟩
    · exact Or.inl (.describe format hnone)
    · exact Or.inr ⟨path, .describe path format⟩
  | vector size element preset config =>
    rcases selectsNoFile_or_eq preset config with hnone | ⟨path, rfl, rfl⟩
    · exact Or.inl (.vector size element hnone)
    · exact Or.inr ⟨path, .vector size element path⟩

/-! ## The same in two file systems -/

theorem selectConfig_of_selectsNoFile (h : SelectsNoFile preset config)
    (files files' : FileSystem) :
    selectConfig files preset config = selectConfig files' preset config := by
  cases h <;> rfl

theorem selectConfig_congr (h : files path = files' path) :
    selectConfig files none (some path) = selectConfig files' none (some path) :=
  congrArg (Except.mapError (CommandError.loading path)) (Config.load_congr h)

theorem selectTarget_congr (h : selectConfig files preset config =
    selectConfig files' preset config) :
    selectTarget files preset config = selectTarget files' preset config := by
  simp only [selectTarget, h]

theorem action_describe_of_unknownFormat {format : String} (h : format ∉ DescriptionFormat.names) :
    (describe preset config (some format)).action order files = .fail (.unknownFormat format) := by
  have hformat := DescriptionFormat.parse_eq_error_iff.2 ⟨format, rfl, h, rfl⟩
  simp only [action, printDescription, hformat, Printing.liftM_eq, Printing.ofExcept_error_bind]

theorem action_vector_of_unknownElement (h : ∀ t : BasicType, ¬ t.IsNamed element) :
    (vector size element preset config).action order files =
      .fail (.unknownType ⟨.type, element⟩) := by
  have helement := readType_eq_error_iff.2 ⟨h, rfl⟩
  simp only [action, printVerdict, helement, Printing.liftM_eq, Printing.ofExcept_error_bind]

/-- A command that is free of files does the same in all file systems. -/
theorem IsFileFree.action_eq (h : c.IsFileFree) (order : ByteOrder) (files files' : FileSystem) :
    c.action order files = c.action order files' := by
  cases h with
  | list | template | paint => rfl
  | describe format hnone =>
    have hselect := selectTarget_congr (selectConfig_of_selectsNoFile hnone files files')
    simp only [action, printDescription, hselect]
  | unknownFormat preset config hformat =>
    rw [action_describe_of_unknownFormat hformat, action_describe_of_unknownFormat hformat]
  | vector size element hnone =>
    have hselect := selectTarget_congr (selectConfig_of_selectsNoFile hnone files files')
    simp only [action, printVerdict, hselect]
  | unknownElement size preset config helement =>
    rw [action_vector_of_unknownElement helement, action_vector_of_unknownElement helement]

/-- A command with a file does the same wherever its path leads to the same. -/
theorem IsGivenFile.action_eq (h : c.IsGivenFile path) (hsame : files path = files' path)
    (order : ByteOrder) : c.action order files = c.action order files' := by
  have hselect := selectTarget_congr (selectConfig_congr hsame)
  cases h with
  | validate path => simp only [action, printIssues, loadConfig, Config.load_congr hsame]
  | describe path format => simp only [action, printDescription, hselect]
  | vector size element path => simp only [action, printVerdict, hselect]

/-! ## Different in two file systems -/

/-- A command that gets to its file reports why it was not loaded. -/
theorem runOn_of_load_eq_error (hgiven : c.IsGivenFile path) (hfree : ¬ c.IsFileFree)
    {cause : LoadError} (hload : Config.load files path = .error cause) :
    c.runOn order files = ⟨"", some (.loading path cause)⟩ := by
  have hconfig : loadConfig files path = .error (.loading path cause) :=
    mapError_eq_error_iff.2 ⟨cause, hload, rfl⟩
  have hselect : selectTarget files none (some path) = .fail (.loading path cause) :=
    selectTarget_of_error hconfig
  cases hgiven with
  | validate path =>
    simp only [runOn, action, printIssues, hconfig, Printing.liftM_eq, Printing.ofExcept_error_bind]
    rfl
  | describe path format =>
    cases hformat : DescriptionFormat.parse format with
    | error e =>
      obtain ⟨name, rfl, hname, -⟩ := DescriptionFormat.parse_eq_error_iff.1 hformat
      exact absurd (.unknownFormat none (some path) hname) hfree
    | ok f =>
      simp only [runOn, action, printDescription, hformat, hselect, Printing.liftM_eq,
        Printing.ofExcept_ok_bind, Printing.fail_bind]
      rfl
  | vector size element path =>
    by_cases helement : ∃ t : BasicType, t.IsNamed element
    · obtain ⟨t, ht⟩ := helement
      simp only [runOn, action, printVerdict, readType_eq_ok_iff.2 ht, hselect, Printing.liftM_eq,
        Printing.ofExcept_ok_bind, Printing.fail_bind]
      rfl
    · rw [not_exists] at helement
      exact absurd (.unknownElement size none (some path) helement) hfree

/-- A command that is not free of files tells a missing file from a directory. -/
theorem exists_runOn_ne (hgiven : c.IsGivenFile path) (hfree : ¬ c.IsFileFree)
    (order : ByteOrder) :
    ∃ files files' : FileSystem, (∀ other, other ≠ path → files other = files' other) ∧
      c.runOn order files ≠ c.runOn order files' := by
  refine ⟨fun _ => .missing, fun other => if other = path then .directory else .missing, ?_, ?_⟩
  · intro other hother
    exact (if_neg hother).symm
  · rw [runOn_of_load_eq_error hgiven hfree (Config.load_of_missing rfl),
      runOn_of_load_eq_error hgiven hfree (Config.load_of_directory (if_pos rfl))]
    simp

/-! ## What a command depends on -/

/-- What a command depends on in the file system. A command that is free of files prints the same
and fails the same in any two file systems. A command with a file does so whenever its path leads to
the same in both: nowhere, to a directory, or to the same bytes. There are no other commands, and
those that are not free of files do depend on what the path leads to. -/
theorem runOn_reads_given_file_only (order : ByteOrder) (c : Command) :
    (c.IsFileFree → ∀ files files', c.runOn order files = c.runOn order files') ∧
      (∀ path, c.IsGivenFile path → ∀ files files' : FileSystem, files path = files' path →
        c.runOn order files = c.runOn order files') ∧
      (c.IsFileFree ∨ ∃ path, c.IsGivenFile path ∧
        ∃ files files' : FileSystem, (∀ other, other ≠ path → files other = files' other) ∧
          c.runOn order files ≠ c.runOn order files') := by
  refine ⟨?_, ?_, ?_⟩
  · intro hfree files files'
    exact congrArg Outcome.ofPrinting (hfree.action_eq order files files')
  · intro path hgiven files files' hsame
    exact congrArg Outcome.ofPrinting (hgiven.action_eq hsame order)
  · by_cases hfree : c.IsFileFree
    · exact Or.inl hfree
    · obtain ⟨path, hgiven⟩ := c.isFileFree_or_isGivenFile.resolve_left hfree
      exact Or.inr ⟨path, hgiven, exists_runOn_ne hgiven hfree order⟩

example (files : FileSystem) :
    (vector 16 "bool" (some "linux-x86") (some "linux.toml")).run files =
      ⟨"", some .presetAndConfig⟩ := rfl

/-! ## The path that the program reads -/

theorem IsGivenFile.path?_eq (h : c.IsGivenFile path) : c.path? = some path := by
  cases h <;> rfl

/-- A command depends on no path but the one that it may read, and neither does its log. -/
theorem action_congr (h : ∀ path, c.path? = some path → files path = files' path)
    (order : ByteOrder) : c.action order files = c.action order files' := by
  rcases c.isFileFree_or_isGivenFile with hfree | ⟨path, hgiven⟩
  · exact hfree.action_eq order files files'
  · exact hgiven.action_eq (h path hgiven.path?_eq) order

end Command

/-- The program does the same in two file systems in which the path that its arguments ask for leads
to the same. So it can be run on a file system in which every path leads to the same as that one. -/
theorem runProgramOn_congr {files files' : FileSystem} {arguments : List String}
    (h : ∀ request path, Request.ofArguments arguments = .ok request →
      request.path? = some path → files path = files' path) (lib : Libraries) (order : ByteOrder) :
    runProgramOn lib order files arguments = runProgramOn lib order files' arguments := by
  unfold runProgramOn
  cases hrequest : Request.ofArguments arguments with
  | error e => rfl
  | ok request =>
    cases request with
    | version | help => rfl
    | run before after c =>
      have hpath : ∀ path, c.path? = some path → files path = files' path := by
        intro path
        exact h _ path hrequest
      simp only [Request.result, Command.result, Command.action_congr hpath order]

end TargetAbi
