import TargetAbi.Command
import TargetAbi.Proofs.BasicType
import TargetAbi.Proofs.Result

/-!
# Steps of commands

When the steps that commands share have a result, and with which error they fail otherwise.
-/

set_option autoImplicit false

namespace TargetAbi.Command

variable {order : ByteOrder} {files : FileSystem} {value name : String}
  {preset config : Option String} {s t : BasicType} {c d : Constant} {target : Config}
  {e : CommandError}

theorem readType_eq_ok_iff : readType name = .ok t ↔ t.IsNamed name := by
  rw [readType, mapError_eq_ok_iff, BasicType.parse_eq_ok_iff]

theorem readType_eq_error_iff :
    readType name = .error e ↔
      (∀ t : BasicType, ¬ t.IsNamed name) ∧ e = .unknownType ⟨.type, name⟩ := by
  rw [readType, mapError_eq_error_iff]
  constructor
  · rintro ⟨cause, hcause, rfl⟩
    obtain ⟨hnone, rfl⟩ := BasicType.parse_eq_error_iff.1 hcause
    exact ⟨hnone, rfl⟩
  · rintro ⟨hnone, rfl⟩
    exact ⟨_, BasicType.parse_eq_error_iff.2 ⟨hnone, rfl⟩, rfl⟩

theorem readLiteral_eq_ok_iff : readLiteral value s = .ok c ↔ Constant.read value s = .ok c :=
  mapError_eq_ok_iff

theorem readLiteral_eq_error_iff :
    readLiteral value s = .error e ↔
      ∃ cause, Constant.read value s = .error cause ∧ .literal cause = e :=
  mapError_eq_error_iff

theorem reinterpret_eq_ok_iff :
    reinterpret order c t = .ok d ↔ c.reinterpret order t = .ok d :=
  mapError_eq_ok_iff

theorem reinterpret_eq_error_iff :
    reinterpret order c t = .error e ↔
      ∃ cause, c.reinterpret order t = .error cause ∧ .reinterpret cause = e :=
  mapError_eq_error_iff

/-- The target that the arguments of a command select: a preset by its name, or a file by its path,
but not both. -/
inductive Selects (files : FileSystem) : (preset config : Option String) → Config → Prop
  | preset {name : String} {target : Config} : Preset.resolve? name = some target →
      Selects files (some name) none target
  | file {path : String} {target : Config} : Config.load files path = .ok target →
      Selects files none (some path) target

theorem selectConfig_eq_ok_iff :
    selectConfig files preset config = .ok target ↔ Selects files preset config target := by
  constructor
  · intro h
    cases preset with
    | some name =>
      cases config with
      | some path => cases h
      | none =>
        cases hname : Preset.resolve? name with
        | none => simp [selectConfig, hname] at h
        | some found =>
          simp only [selectConfig, hname, Except.ok.injEq] at h
          exact .preset (hname.trans (congrArg some h))
    | none =>
      cases config with
      | some path => exact .file (mapError_eq_ok_iff.1 h)
      | none => cases h
  · rintro (hname | hload)
    · simp only [selectConfig, hname]
    · exact mapError_eq_ok_iff.2 hload

/-! ## The selected target -/

theorem selectTarget_of_error (h : selectConfig files preset config = .error e) :
    selectTarget files preset config = .fail e := by
  simp only [selectTarget, h, Printing.liftM_eq, Printing.ofExcept_error_bind]

/-- What the log says of a selected target: that it was loaded, if it is in a file, and that it was
resolved. -/
def selectionRecords (config : Option String) (target : Config) : List LogRecord :=
  config.toList.map (loadedRecord · target) ++ [resolvedRecord (.ofConfig target)]

theorem selectTarget_of_ok (h : selectConfig files preset config = .ok target) :
    selectTarget files preset config =
      ⟨"", selectionRecords config target, .ok (.ofConfig target)⟩ := by
  simp only [selectTarget, h, Printing.liftM_eq, Printing.ofExcept_ok_bind]
  cases config with
  | none => rfl
  | some path => rfl

/-- Selecting a target prints nothing. -/
theorem stdout_selectTarget (files : FileSystem) (preset config : Option String) :
    (selectTarget files preset config).stdout = "" := by
  cases h : selectConfig files preset config with
  | error e =>
    rw [selectTarget_of_error h]
    rfl
  | ok target => rw [selectTarget_of_ok h]

theorem result_selectTarget (files : FileSystem) (preset config : Option String) :
    (selectTarget files preset config).result =
      (selectConfig files preset config).map Target.ofConfig := by
  cases h : selectConfig files preset config with
  | error e =>
    rw [selectTarget_of_error h]
    rfl
  | ok target =>
    rw [selectTarget_of_ok h]
    rfl

end TargetAbi.Command
