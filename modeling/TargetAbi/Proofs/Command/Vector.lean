import TargetAbi.Proofs.Command.FileAccess
import TargetAbi.Proofs.Command.Output

/-!
# Verdicts on vector types

A vector type has to satisfy three rules, on the platform, on its size and on its element type. The
verdict is that of the first rule which is violated (`checkVector_eq_firstViolated`). A vector that
is legal has room for two elements or more, and no part of an element is left over
(`exists_lanes`). The vector command succeeds where the verdict is good, and fails otherwise
(`checkVector_exact`).
-/

set_option autoImplicit false

namespace TargetAbi

/-! ## The rules -/

/-- What a vector type is checked for. -/
inductive VectorRule where
  | platform
  | size
  | element
  deriving DecidableEq, Repr

namespace VectorRule

/-- The rules in the order in which they are checked. -/
def all : List VectorRule := [platform, size, element]

/-- The element types of vectors: `void`, the integers of up to 64 bits and two floats. -/
def elements : List BasicType :=
  [.void, .int8, .uns8, .int16, .uns16, .int32, .uns32, .int64, .uns64, .float32, .float64]

/-- A rule holds for a vector of `bytes` bytes of `type` on a target. -/
def Holds (c : Config) (bytes : UInt64) (type : BasicType) : VectorRule → Prop
  | platform => c.is64bit = true ∨ c.os = .macos
  | size => bytes = 16 ∨ bytes = 32
  | element => type ∈ elements

instance (c : Config) (bytes : UInt64) (type : BasicType) :
    DecidablePred (Holds c bytes type)
  | platform => inferInstanceAs (Decidable (c.is64bit = true ∨ c.os = .macos))
  | size => inferInstanceAs (Decidable (bytes = 16 ∨ bytes = 32))
  | element => inferInstanceAs (Decidable (type ∈ elements))

/-- The verdict on a vector type that violates a rule. -/
def verdict : VectorRule → VectorVerdict
  | platform => .unsupportedPlatform
  | size => .wrongSize
  | element => .wrongBaseType

/-- The first rule that a vector type violates. -/
def firstViolated (c : Config) (bytes : UInt64) (type : BasicType) : Option VectorRule :=
  all.find? fun rule => ¬ rule.Holds c bytes type

theorem mem_all (rule : VectorRule) : rule ∈ all := by
  cases rule <;> decide

theorem firstViolated_eq_none_iff {c : Config} {bytes : UInt64} {type : BasicType} :
    firstViolated c bytes type = none ↔ ∀ rule : VectorRule, rule.Holds c bytes type := by
  simp [firstViolated, mem_all]

/-! ## The guards of the check -/

variable {c : Config} {bytes : UInt64} {type : BasicType}

theorem guard_platform_iff :
    (!c.is64bit && c.os != .macos) = true ↔ ¬ platform.Holds c bytes type := by
  simp [Holds]

theorem guard_size_iff : (bytes != 16 && bytes != 32) = true ↔ ¬ size.Holds c bytes type := by
  simp [Holds]

theorem isVectorElement_iff : type.isVectorElement = true ↔ element.Holds c bytes type := by
  show type.isVectorElement = true ↔ type ∈ elements
  cases type <;> decide

/-- Elements have one, two, four or eight bytes. -/
theorem sizeOf_dvd_eight (h : type ∈ elements) (target : Target) :
    (target.sizeOf type).toNat ∣ 8 := by
  cases type
  case void | int8 | uns8 => exact ⟨8, rfl⟩
  case int16 | uns16 => exact ⟨4, rfl⟩
  case int32 | uns32 | float32 => exact ⟨2, rfl⟩
  case int64 | uns64 | float64 => exact ⟨1, rfl⟩
  all_goals exact absurd h (by decide)

end VectorRule

namespace Config

open VectorRule

variable {c : Config} {bytes : UInt64} {type : BasicType}

/-! ## The verdict -/

/-- The verdict is that of the first violated rule. -/
theorem checkVector_eq_firstViolated (c : Config) (bytes : UInt64) (type : BasicType) :
    c.checkVector bytes type = (firstViolated c bytes type).elim .ok verdict := by
  by_cases hplatform : platform.Holds c bytes type
  · have hpass := mt guard_platform_iff.1 (not_not.2 hplatform)
    by_cases hsize : size.Holds c bytes type
    · have hpass' := mt guard_size_iff.1 (not_not.2 hsize)
      rw [checkVector, if_neg hpass, if_neg hpass']
      by_cases helement : element.Holds c bytes type
      · rw [if_pos (isVectorElement_iff.2 helement)]
        simp [firstViolated, VectorRule.all, hplatform, hsize, helement]
      · rw [if_neg (mt isVectorElement_iff.1 helement)]
        simp [firstViolated, VectorRule.all, hplatform, hsize, helement, verdict]
    · rw [checkVector, if_neg hpass, if_pos (guard_size_iff.2 hsize)]
      simp [firstViolated, VectorRule.all, hplatform, hsize, verdict]
  · rw [checkVector, if_pos (guard_platform_iff.2 hplatform)]
    simp [firstViolated, VectorRule.all, hplatform, verdict]

theorem checkVector_eq_ok_iff :
    c.checkVector bytes type = .ok ↔ ∀ rule : VectorRule, rule.Holds c bytes type := by
  rw [← firstViolated_eq_none_iff, checkVector_eq_firstViolated]
  cases firstViolated c bytes type with
  | none => simp
  | some rule => cases rule <;> simp [verdict]

theorem checkVector_with_isLp64 (c : Config) (bytes : UInt64) (type : BasicType) (isLp64 : Bool) :
    { c with isLp64 }.checkVector bytes type = c.checkVector bytes type := rfl

/-- A legal vector consists of two elements or more. -/
theorem exists_lanes (h : c.checkVector bytes type = .ok) :
    ∃ lanes, 2 ≤ lanes ∧
      bytes.toNat = lanes * ((Target.ofConfig c).sizeOf type).toNat := by
  have hrules := checkVector_eq_ok_iff.1 h
  obtain ⟨k, hk, hbytes⟩ : ∃ k, 2 ≤ k ∧ bytes.toNat = k * 8 := by
    rcases hrules .size with rfl | rfl
    · exact ⟨2, by decide, rfl⟩
    · exact ⟨4, by decide, rfl⟩
  obtain ⟨n, hn⟩ := sizeOf_dvd_eight (hrules .element) (Target.ofConfig c)
  have hpos : 0 < n := Nat.pos_of_ne_zero (by rintro rfl; simp at hn)
  refine ⟨k * n, Nat.le_trans hk (Nat.le_mul_of_pos_right k hpos), ?_⟩
  calc
    bytes.toNat = k * 8 := hbytes
    _ = k * (((Target.ofConfig c).sizeOf type).toNat * n) := by rw [hn]
    _ = k * n * ((Target.ofConfig c).sizeOf type).toNat := by
      rw [Nat.mul_comm _ n, Nat.mul_assoc]

end Config

namespace Command

/-! ## The command -/

variable {files : FileSystem} {preset config : Option String}

/-- Why a check of a vector type on a target fails, if it does: the text does not name a type, or
the verdict is not good. -/
def vectorError (target : Config) (bytes : UInt64) (text : String) : Option CommandError :=
  match BasicType.parse text with
  | .error e => some (.unknownType e)
  | .ok type => if target.checkVector bytes type = .ok then none else some .illegalVector

theorem error_runOn_vector (order : ByteOrder) {target : Config}
    (h : Selects files preset config target) (bytes : UInt64) (text : String) :
    ((vector bytes text preset config).runOn order files).error =
      vectorError target bytes text := by
  unfold vectorError
  cases htext : BasicType.parse text with
  | error e =>
    obtain ⟨hnone, rfl⟩ := BasicType.parse_eq_error_iff.1 htext
    have hrun : (vector bytes text preset config).runOn order files = .ofPrinting _ :=
      congrArg Outcome.ofPrinting (action_vector_of_unknownElement hnone)
    rw [hrun]
    rfl
  | ok type =>
    have hrun : (vector bytes text preset config).runOn order files = .ofPrinting _ :=
      congrArg Outcome.ofPrinting
        (printVerdict_of_selects (BasicType.parse_eq_ok_iff.1 htext) h)
    rw [hrun]
    by_cases hlegal : target.checkVector bytes type = .ok
    · simp [Outcome.ofPrinting, hlegal]
    · simp [Outcome.ofPrinting, hlegal]

theorem vectorError_eq_none_iff {target : Config} {bytes : UInt64} {text : String} :
    vectorError target bytes text = none ↔
      ∃ type, BasicType.parse text = .ok type ∧ target.checkVector bytes type = .ok := by
  unfold vectorError
  cases BasicType.parse text with
  | error e => simp
  | ok type => simp

/-- The verdict on every vector type on every target. It is that of the first violated rule, in the
order platform, size and element, and good if none is violated; the data model of the target does
not matter to it. A legal vector is two elements or more, without a rest. The vector command with
this target succeeds if and only if the text names an element type on which the verdict is good. It
fails otherwise, with the text as the reason if that names no type. The exit status says the same,
whatever log is asked for. -/
theorem checkVector_exact (c : Config) (bytes : UInt64) (type : BasicType) :
    c.checkVector bytes type =
        (VectorRule.firstViolated c bytes type).elim .ok VectorRule.verdict ∧
      (c.checkVector bytes type = .ok ↔ ∀ rule : VectorRule, rule.Holds c bytes type) ∧
      (∀ isLp64, { c with isLp64 }.checkVector bytes type = c.checkVector bytes type) ∧
      (c.checkVector bytes type = .ok → ∃ lanes, 2 ≤ lanes ∧
        bytes.toNat = lanes * ((Target.ofConfig c).sizeOf type).toNat) ∧
      ∀ order files preset config text, Selects files preset config c →
        let run := vector bytes text preset config
        let error := (run.runOn order files).error
        (error = none ↔
          ∃ element, BasicType.parse text = .ok element ∧ c.checkVector bytes element = .ok) ∧
        error = vectorError c bytes text ∧
        ∀ lib verbosity,
          ((run.result lib order files verbosity).exit = 0 ↔ error = none) ∧
          ((run.result lib order files verbosity).exit = 1 ↔ error ≠ none) := by
  refine ⟨c.checkVector_eq_firstViolated bytes type, Config.checkVector_eq_ok_iff,
    c.checkVector_with_isLp64 bytes type, Config.exists_lanes, ?_⟩
  intro order files preset config text hselects run error
  have herror : error = vectorError c bytes text := error_runOn_vector order hselects bytes text
  refine ⟨?_, herror, ?_⟩
  · rw [herror]
    exact vectorError_eq_none_iff
  · intro lib verbosity
    rw [exit_result]
    constructor
    · simp [error]
    · simp [error]

/-- Two lanes of 64 bits on 32-bit macOS, which has vectors for all that. -/
theorem checkVector_exact_macos :
    let macos32 := Config.ilp32 .macos
    macos32.checkVector 16 .uns64 = .ok ∧
      (∃ lanes, 2 ≤ lanes ∧
        (16 : UInt64).toNat = lanes * ((Target.ofConfig macos32).sizeOf .uns64).toNat) ∧
      Selects (fun _ => .missing) (some "macos-x86") none macos32 ∧
      ((vector 16 "u64" (some "macos-x86") none).runOn .leastFirst fun _ => .missing).error =
        none := by
  intro macos32
  obtain ⟨-, -, -, hlanes, hcommand⟩ := checkVector_exact macos32 16 .uns64
  have hok : macos32.checkVector 16 .uns64 = .ok := rfl
  have hselects : Selects (fun _ => .missing) (some "macos-x86") none macos32 := .preset rfl
  exact ⟨hok, hlanes hok, hselects,
    (hcommand .leastFirst _ _ _ "u64" hselects).1.2 ⟨.uns64, rfl, hok⟩⟩

end Command

end TargetAbi
