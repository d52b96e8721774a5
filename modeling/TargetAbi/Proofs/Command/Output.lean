import TargetAbi.Program
import TargetAbi.Proofs.Command.Steps
import TargetAbi.Proofs.Printing

/-!
# The output of failing commands

A command that fails has printed nothing: it finds everything that it prints before it prints the
first of it. The one exception is a vector type that is illegal on its target, where the verdict is
printed and the command fails after that. `runProgramOn_output` says this of every command line that
asks for a command, together with the exit status and with what the commands print that check a file
or a vector type.
-/

set_option autoImplicit false

namespace TargetAbi

open Text

/-! ## Lines of the library's own words -/

theorem OsFamily.isLine_name (os : OsFamily) : IsLine os.name := by
  cases os <;> decide

theorem Config.isLine_text (target : Config) : IsLine target.text := by
  simp only [Config.text, Config.model, isLine_append, OsFamily.isLine_name, true_and]
  cases target.is64bit <;> cases target.isLp64 <;> decide

theorem VectorVerdict.isLine_text (verdict : VectorVerdict) : IsLine verdict.text := by
  cases verdict <;> decide

theorem ConfigIssue.isLine_text (issue : ConfigIssue) : IsLine issue.text := by
  cases issue with
  | lp64On32bit os | shortPointersOn64bit os =>
    simp only [ConfigIssue.text, ConfigIssue.description, isLine_append, os.isLine_name, true_and]
    decide

namespace Command

open Printing

variable {files : FileSystem} {preset config : Option String} {size : UInt64} {element : String}
  {t : BasicType} {target : Config}

theorem isLine_verdictLine (target : Config) (size : UInt64) (t : BasicType) :
    IsLine (verdictLine target size t) := by
  unfold verdictLine
  simp only [isLine_append, BasicType.isLine_name, Config.isLine_text, isLine_decimal,
    VectorVerdict.isLine_text, and_true]
  decide

/-- The lines for a file whose configuration was loaded: one for every issue, or a single one if
there are none. -/
def validationLines (file : String) (target : Config) : List String :=
  if target.issues = [] then [file ++ ": ok (" ++ target.text ++ ")"]
  else target.issues.map fun issue => file ++ ": " ++ issue.text

/-- A line feed in one of the lines comes from the path. -/
theorem isLine_of_mem_validationLines {file : String} (hfile : IsLine file) :
    ∀ line ∈ validationLines file target, IsLine line := by
  intro line hline
  unfold validationLines at hline
  split at hline
  · rw [List.mem_singleton.1 hline]
    simp only [isLine_append, hfile, target.isLine_text, true_and, and_true]
    decide
  · obtain ⟨issue, -, rfl⟩ := List.mem_map.1 hline
    simp only [isLine_append, hfile, issue.isLine_text, true_and, and_true]
    decide

/-! ## The commands one by one -/

theorem cleanOnFailure_printPresets : CleanOnFailure printPresets :=
  cleanOnFailure_of_ok (a := ()) rfl

theorem cleanOnFailure_printDescription (files : FileSystem)
    (preset config format : Option String) :
    CleanOnFailure (printDescription files preset config format) := by
  apply cleanOnFailure_ofExcept_bind
  intro format _
  apply cleanOnFailure_bind (stdout_selectTarget files preset config)
  intro target _
  exact cleanOnFailure_of_ok (a := ()) rfl

/-- Checking a file that loads prints its lines and does not fail. -/
theorem printIssues_of_load {file : String} (h : Config.load files file = .ok target) :
    printIssues files file =
      ⟨unlines (validationLines file target), [loadedRecord file target], .ok ()⟩ := by
  have hload : loadConfig files file = .ok target := mapError_eq_ok_iff.2 h
  simp only [printIssues, hload, liftM_eq, ofExcept_ok_bind, log_bind, validationLines]
  -- the command and its lines distinguish the same two cases, by `match` and by `if`
  cases hissues : target.issues with
  | nil =>
    rw [if_pos rfl, unlines_cons, unlines_nil, String.append_empty]
    rfl
  | cons issue issues =>
    rw [if_neg (List.cons_ne_nil _ _)]
    simp only [forM_printLine]
    rfl

theorem cleanOnFailure_printIssues (files : FileSystem) (file : String) :
    CleanOnFailure (printIssues files file) := by
  cases hload : Config.load files file with
  | error e =>
    have herror : loadConfig files file = .error (.loading file e) :=
      mapError_eq_error_iff.2 ⟨e, hload, rfl⟩
    simp only [printIssues, herror, liftM_eq, ofExcept_error_bind]
    exact cleanOnFailure_ofExcept _
  | ok target =>
    rw [printIssues_of_load hload]
    exact cleanOnFailure_of_ok (a := ()) rfl

theorem cleanOnFailure_printTemplate (preset : String) : CleanOnFailure (printTemplate preset) := by
  apply cleanOnFailure_ofExcept_bind
  intro text _
  exact cleanOnFailure_of_ok (a := ()) rfl

theorem cleanOnFailure_printPainted (order : ByteOrder) (value source target : String) :
    CleanOnFailure (printPainted order value source target) := by
  apply cleanOnFailure_ofExcept_bind
  intro s _
  apply cleanOnFailure_ofExcept_bind
  intro t _
  apply cleanOnFailure_ofExcept_bind
  intro c _
  apply cleanOnFailure_ofExcept_bind
  intro d _
  exact cleanOnFailure_of_ok (a := ()) rfl

/-- The verdict is printed whether the vector type is legal or not. -/
theorem printVerdict_of_selects (ht : t.IsNamed element)
    (htarget : Selects files preset config target) :
    printVerdict files size element preset config =
      ⟨unlines [verdictLine target size t],
        selectionRecords config target ++ [verdictRecord target size t],
        if target.checkVector size t = .ok then .ok () else .error .illegalVector⟩ := by
  have ht := readType_eq_ok_iff.2 ht
  have htarget := selectTarget_of_ok (selectConfig_eq_ok_iff.2 htarget)
  have hconfig : (Target.ofConfig target).config = target := rfl
  simp only [printVerdict, ht, htarget, hconfig, liftM_eq, ofExcept_ok_bind, mk_ok_bind, log_bind,
    printLine, print_bind, unlines_cons, unlines_nil, String.empty_append]
  by_cases hlegal : target.checkVector size t = .ok
  · rw [if_neg (not_not.2 hlegal), if_pos hlegal]
    rfl
  · rw [if_pos hlegal, if_neg hlegal]
    rfl

/-- Without an element type or a target there is no verdict. -/
theorem cleanOnFailure_printVerdict
    (h : ∀ (t : BasicType) (target : Config), t.IsNamed element →
      ¬ Selects files preset config target) :
    CleanOnFailure (printVerdict files size element preset config) := by
  apply cleanOnFailure_ofExcept_bind
  intro t ht
  apply cleanOnFailure_bind (stdout_selectTarget files preset config)
  intro resolved hresolved
  cases htarget : selectConfig files preset config with
  | error e =>
    rw [selectTarget_of_error htarget] at hresolved
    cases hresolved
  | ok target =>
    exact absurd (selectConfig_eq_ok_iff.1 htarget) (h t target (readType_eq_ok_iff.1 ht))

/-- A command prints nothing before it fails, unless it is a check of a vector type that comes to a
verdict. -/
theorem cleanOnFailure_action (order : ByteOrder) (files : FileSystem) (c : Command)
    (h : ∀ size element preset config t target, c = .vector size element preset config →
      BasicType.IsNamed t element → ¬ Selects files preset config target) :
    CleanOnFailure (c.action order files) := by
  cases c with
  | list => exact cleanOnFailure_printPresets
  | describe preset config format =>
    exact cleanOnFailure_printDescription files preset config format
  | validate file => exact cleanOnFailure_printIssues files file
  | template preset => exact cleanOnFailure_printTemplate preset
  | paint value source target => exact cleanOnFailure_printPainted order value source target
  | vector size element preset config =>
    apply cleanOnFailure_printVerdict
    intro t target
    exact h size element preset config t target rfl

end Command

/-! ## Runs of the program -/

/-- What the program leaves behind for a command: the exit status tells whether the command failed,
and the output of a failed command is empty or a verdict. -/
structure IsCommandResult (order : ByteOrder) (files : FileSystem) (c : Command) (r : RunResult) :
    Prop where
  /-- There are two exit statuses. -/
  exit_eq : r.exit = 0 ∨ r.exit = 1
  /-- The status is 1 for an error of the command. -/
  exit_eq_one_iff : r.exit = 1 ↔ ∃ e, (c.action order files).result = .error e
  /-- A failed command has printed nothing, or the verdict on a vector type that is not legal. -/
  stdout_of_failure : r.exit = 1 → r.stdout = "" ∨
    ∃ size element preset config t target, c = .vector size element preset config ∧
      BasicType.IsNamed t element ∧ Command.Selects files preset config target ∧
      target.checkVector size t ≠ .ok ∧ HasLines r.stdout [Command.verdictLine target size t]
  /-- A check of a vector type prints its verdict, and fails if the type is not legal. -/
  verdict : ∀ size element preset config t target, c = .vector size element preset config →
    BasicType.IsNamed t element → Command.Selects files preset config target →
      HasLines r.stdout [Command.verdictLine target size t] ∧
        (r.exit = 1 ↔ target.checkVector size t ≠ .ok)
  /-- A check of a file that loads succeeds. It prints that there are no issues, or the issues. -/
  validation : ∀ file target, c = .validate file → Config.load files file = .ok target →
    r.exit = 0 ∧ ∃ lines, r.stdout = unlines lines ∧ (IsLine file → HasLines r.stdout lines) ∧
      (target.issues = [] ∧ lines = [file ++ ": ok (" ++ target.text ++ ")"] ∨
        target.issues ≠ [] ∧ lines = target.issues.map fun issue => file ++ ": " ++ issue.text)

namespace Command

variable {lib : Libraries} {order : ByteOrder} {files : FileSystem} {verbosity : Nat} {c : Command}

theorem stdout_result (lib : Libraries) (order : ByteOrder) (files : FileSystem) (verbosity : Nat)
    (c : Command) :
    (c.result lib order files verbosity).stdout = (c.action order files).stdout := by
  cases h : (c.action order files).result <;> simp only [result, h]

theorem exit_result_of_ok (h : (c.action order files).result = .ok ()) :
    (c.result lib order files verbosity).exit = 0 := by
  simp only [result, h]

theorem exit_result_of_error {e : CommandError} (h : (c.action order files).result = .error e) :
    (c.result lib order files verbosity).exit = 1 := by
  simp only [result, h]

theorem exit_result_eq_one_iff :
    (c.result lib order files verbosity).exit = 1 ↔
      ∃ e, (c.action order files).result = .error e := by
  cases h : (c.action order files).result with
  | ok u =>
    rw [exit_result_of_ok h]
    simp
  | error e =>
    rw [exit_result_of_error h]
    simp

/-- The exit status tells the two kinds of outcome apart, whatever log is asked for. -/
theorem exit_result (lib : Libraries) (order : ByteOrder) (files : FileSystem) (verbosity : Nat)
    (c : Command) :
    (c.result lib order files verbosity).exit =
      if (c.runOn order files).error = none then 0 else 1 := by
  unfold runOn Outcome.ofPrinting
  cases h : (c.action order files).result with
  | ok u => exact exit_result_of_ok h
  | error e => exact exit_result_of_error h

/-- The run of a check of a vector type that comes to a verdict. -/
theorem result_vector_of_selects (lib : Libraries) (order : ByteOrder) {files : FileSystem}
    (verbosity : Nat) {size : UInt64} {element : String} {preset config : Option String}
    {t : BasicType} {target : Config} (ht : t.IsNamed element)
    (htarget : Selects files preset config target) :
    let r := (vector size element preset config).result lib order files verbosity
    HasLines r.stdout [verdictLine target size t] ∧
      (r.exit = 1 ↔ target.checkVector size t ≠ .ok) := by
  have haction : (vector size element preset config).action order files = _ :=
    printVerdict_of_selects ht htarget
  refine ⟨⟨?_, ?_⟩, ?_⟩
  · rw [stdout_result, haction]
  · intro line hline
    rw [List.mem_singleton.1 hline]
    exact isLine_verdictLine target size t
  · rw [exit_result_eq_one_iff, haction]
    by_cases hlegal : target.checkVector size t = .ok
    · simp [hlegal]
    · simp [hlegal]

theorem isCommandResult_result (lib : Libraries) (order : ByteOrder) (files : FileSystem)
    (verbosity : Nat) (c : Command) :
    IsCommandResult order files c (c.result lib order files verbosity) where
  exit_eq := by
    cases h : (c.action order files).result with
    | ok u => exact Or.inl (exit_result_of_ok h)
    | error e => exact Or.inr (exit_result_of_error h)
  exit_eq_one_iff := exit_result_eq_one_iff
  stdout_of_failure := by
    intro hexit
    -- a check that comes to a verdict is the only command that may print and fail
    by_cases hverdict : ∃ size element preset config t target,
        c = .vector size element preset config ∧ BasicType.IsNamed t element ∧
          Selects files preset config target
    · obtain ⟨size, element, preset, config, t, target, rfl, ht, htarget⟩ := hverdict
      obtain ⟨hlines, hstatus⟩ := result_vector_of_selects lib order verbosity ht htarget
      exact Or.inr ⟨size, element, preset, config, t, target, rfl, ht, htarget, hstatus.1 hexit,
        hlines⟩
    · left
      have hclean : Printing.CleanOnFailure (c.action order files) := by
        apply cleanOnFailure_action
        intro size element preset config t target hc ht htarget
        exact hverdict ⟨size, element, preset, config, t, target, hc, ht, htarget⟩
      obtain ⟨e, he⟩ := exit_result_eq_one_iff.1 hexit
      rw [stdout_result]
      exact hclean e he
  verdict := by
    rintro size element preset config t target rfl ht htarget
    exact result_vector_of_selects lib order verbosity ht htarget
  validation := by
    rintro file target rfl hload
    have haction : (validate file).action order files = _ := printIssues_of_load hload
    refine ⟨exit_result_of_ok (by rw [haction]), validationLines file target, ?_, ?_, ?_⟩
    · rw [stdout_result, haction]
    · intro hfile
      refine ⟨?_, isLine_of_mem_validationLines hfile⟩
      rw [stdout_result, haction]
    · by_cases hissues : target.issues = []
      · exact Or.inl ⟨hissues, if_pos hissues⟩
      · exact Or.inr ⟨hissues, if_neg hissues⟩

end Command

/-- The result of every command line that asks for a command, on every machine, with all texts of
the libraries and with every content of the file system. -/
theorem runProgramOn_output (lib : Libraries) (order : ByteOrder) (files : FileSystem)
    {arguments : List String} {before after : Nat} {c : Command}
    (h : Request.ofArguments arguments = .ok (.run before after c)) :
    IsCommandResult order files c (runProgramOn lib order files arguments) := by
  have hrun : runProgramOn lib order files arguments =
      c.result lib order files (lib.verbosity before after) := by
    rw [runProgramOn, h]
    rfl
  rw [hrun]
  exact c.isCommandResult_result lib order files (lib.verbosity before after)

/-- A check of an illegal vector type on a preset fails after its verdict. -/
theorem runProgramOn_output_illegal_vector :
    Request.ofArguments ["vector", "16", "bool", "--target", "linux-x86_64"] =
        .ok (.run 0 0 (.vector 16 "bool" (some "linux-x86_64") none)) ∧
      IsCommandResult .leastFirst (fun _ => .missing)
        (.vector 16 "bool" (some "linux-x86_64") none)
        (runProgramOn .plain .leastFirst (fun _ => .missing)
          ["vector", "16", "bool", "--target", "linux-x86_64"]) ∧
      (runProgramOn .plain .leastFirst (fun _ => .missing)
        ["vector", "16", "bool", "--target", "linux-x86_64"]).exit = 1 := by
  have harguments : Request.ofArguments ["vector", "16", "bool", "--target", "linux-x86_64"] =
      .ok (.run 0 0 (.vector 16 "bool" (some "linux-x86_64") none)) := by
    rfl
  exact ⟨harguments, runProgramOn_output _ _ _ harguments, rfl⟩

end TargetAbi
