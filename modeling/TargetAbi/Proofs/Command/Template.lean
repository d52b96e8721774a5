import TargetAbi.Proofs.Command.Steps
import TargetAbi.Proofs.Config.EditedFile

/-!
# Files of presets

The file that is printed for a preset selects the same target as the name of the preset, wherever it
is stored (`templateText_interchangeable`). The commands that describe a target or check a vector type
on it know nothing of their arguments but the target that these select, so they do the same for
both.
-/

set_option autoImplicit false

namespace TargetAbi

/-- The file at a path has exactly the text `text`. -/
def FileSystem.Holds (files : FileSystem) (path text : String) : Prop :=
  files path = .file text.toUTF8

theorem FileSystem.Holds.readText {files : FileSystem} {path text : String}
    (h : files.Holds path text) : files.readText path = .ok text := by
  have hutf8 : String.fromUTF8? text.toUTF8 = some text := dif_pos text.isValidUTF8
  have hfile : files path = .file text.toUTF8 := h
  simp only [FileSystem.readText, hfile, hutf8]

/-- A stored configuration is loaded again. -/
theorem Config.load_of_holds {files : FileSystem} {path : String} {c : Config}
    (h : files.Holds path c.toToml) : Config.load files path = .ok c := by
  rw [Config.load_of_readText h.readText, Config.ofToml_toToml]
  rfl

/-- The outcome of two computations in a row takes from the first one what it prints and its
result. -/
theorem Outcome.ofPrinting_bind_congr {α : Type} {m m' : Printing CommandError α}
    (hstdout : m.stdout = m'.stdout) (hresult : m.result = m'.result)
    (next : α → Printing CommandError Unit) :
    ofPrinting (m >>= next) = ofPrinting (m' >>= next) := by
  obtain ⟨text, records, result⟩ := m
  obtain ⟨text', records', result'⟩ := m'
  obtain rfl : text = text' := hstdout
  obtain rfl : result = result' := hresult
  cases result <;> rfl

namespace Command

variable {name text : String} {files files' : FileSystem}
  {preset preset' config config' : Option String}

/-! ## The text of a template -/

theorem templateText_eq_ok_iff :
    templateText name = .ok text ↔ ∃ c, Preset.resolve? name = some c ∧ c.toToml = text := by
  unfold templateText Preset.require
  cases Preset.resolve? name with
  | none => simp [Except.map, Except.mapError]
  | some c => simp [Except.map, Except.mapError]

theorem templateText_of_resolve?_eq_none (h : Preset.resolve? name = none) :
    templateText name = .error (.unknownPreset ⟨name⟩) := by
  rw [templateText, Preset.require, h]
  rfl

/-! ## Commands for a selected target -/

/-- What is done with a selected target has the same outcome if the same one is selected in another
way. The log may differ, because only a file is loaded. -/
theorem ofPrinting_selectTarget_congr (h : selectConfig files preset config =
    selectConfig files' preset' config') (next : Target → Printing CommandError Unit) :
    Outcome.ofPrinting (selectTarget files preset config >>= next) =
      .ofPrinting (selectTarget files' preset' config' >>= next) := by
  apply Outcome.ofPrinting_bind_congr
  · rw [stdout_selectTarget, stdout_selectTarget]
  · rw [result_selectTarget, result_selectTarget, h]

theorem runOn_describe_congr (h : selectConfig files preset config =
    selectConfig files' preset' config') (order : ByteOrder) (format : Option String) :
    (describe preset config format).runOn order files =
      (describe preset' config' format).runOn order files' := by
  simp only [runOn, action, printDescription, Printing.liftM_eq]
  cases DescriptionFormat.parse format with
  | error e => rfl
  | ok f =>
    simp only [Printing.ofExcept_ok_bind]
    exact ofPrinting_selectTarget_congr h _

theorem runOn_vector_congr (h : selectConfig files preset config =
    selectConfig files' preset' config') (order : ByteOrder) (size : UInt64) (element : String) :
    (vector size element preset config).runOn order files =
      (vector size element preset' config').runOn order files' := by
  simp only [runOn, action, printVerdict, Printing.liftM_eq]
  cases readType element with
  | error e => rfl
  | ok t =>
    simp only [Printing.ofExcept_ok_bind]
    exact ofPrinting_selectTarget_congr h _

/-- A preset and its file are interchangeable. Exactly the names of presets have a file; for any
other name the error keeps the name. Wherever the file of a preset is stored, it selects the target of
the preset, and so every description and every check of a vector type has the same outcome with the
path of the file as with the name of the preset. -/
theorem templateText_interchangeable (name : String) :
    ((∃ text, templateText name = .ok text) ↔ ∃ c, Preset.resolve? name = some c) ∧
      (Preset.resolve? name = none → templateText name = .error (.unknownPreset ⟨name⟩)) ∧
      ∀ text, templateText name = .ok text → ∃ c, Preset.resolve? name = some c ∧
        ∀ (files : FileSystem) path, files.Holds path text →
          selectConfig files none (some path) = .ok c ∧
          selectConfig files (some name) none = .ok c ∧
          ∀ order,
            (∀ format, (describe none (some path) format).runOn order files =
              (describe (some name) none format).runOn order files) ∧
            ∀ size element, (vector size element none (some path)).runOn order files =
              (vector size element (some name) none).runOn order files := by
  refine ⟨?_, templateText_of_resolve?_eq_none, ?_⟩
  · constructor
    · rintro ⟨text, htext⟩
      obtain ⟨c, hc, -⟩ := templateText_eq_ok_iff.1 htext
      exact ⟨c, hc⟩
    · rintro ⟨c, hc⟩
      exact ⟨c.toToml, templateText_eq_ok_iff.2 ⟨c, hc, rfl⟩⟩
  · intro text htext
    obtain ⟨c, hc, rfl⟩ := templateText_eq_ok_iff.1 htext
    refine ⟨c, hc, fun files path hfile => ?_⟩
    have hpath : selectConfig files none (some path) = .ok c :=
      selectConfig_eq_ok_iff.2 (.file (Config.load_of_holds hfile))
    have hname : selectConfig files (some name) none = .ok c :=
      selectConfig_eq_ok_iff.2 (.preset hc)
    have hsame := hpath.trans hname.symm
    exact ⟨hpath, hname, fun order => ⟨runOn_describe_congr hsame order,
      runOn_vector_congr hsame order⟩⟩

/-- The file of a preset with four-byte pointers on 64-bit hardware. -/
theorem templateText_interchangeable_x32 :
    ∃ text, templateText "linux-x32" = .ok text ∧
      selectConfig (fun _ => .file text.toUTF8) none (some "x32.toml") = .ok (.x32 .linux) := by
  obtain ⟨hexists, -, hsame⟩ := templateText_interchangeable "linux-x32"
  obtain ⟨text, htext⟩ := hexists.2 ⟨.x32 .linux, rfl⟩
  obtain ⟨c, hc, hfile⟩ := hsame text htext
  obtain rfl : Config.x32 .linux = c := Option.some.inj hc
  have hstored : FileSystem.Holds (fun _ => .file text.toUTF8) "x32.toml" text := rfl
  exact ⟨text, htext, (hfile _ _ hstored).1⟩

end Command

end TargetAbi
