import Mathlib.Algebra.Group.Nat.Defs
import TargetAbi.BasicType

/-!
# Sizes of real, imaginary and complex types

An imaginary type is as large as the real type of its category, and a complex type consists of two
of them. Sizes are words of 32 bits, so the law of complex types holds exactly where the double of
the real size is a word: the doubling for `complex80` is checked, and from a storage size of
`2 ^ 31` on the type has no size (`sizeWith_component_law`).
-/

set_option autoImplicit false

namespace TargetAbi

namespace BasicType

variable {t : BasicType} {size n twice : UInt32}

/-! ## The checked doubling -/

/-- The doubling answers nothing but the exact double. -/
theorem checkedDouble_eq_some_iff :
    checkedDouble n = some twice ↔ twice.toNat = 2 * n.toNat := by
  have hsize : UInt32.size = 2 ^ 32 := rfl
  rw [checkedDouble]
  split
  · rename_i hn
    have hdouble : (n * 2).toNat = 2 * n.toNat := by
      rw [UInt32.toNat_mul, Nat.mul_comm 2]
      exact Nat.mod_eq_of_lt hn
    rw [Option.some.injEq, ← UInt32.toNat_inj, hdouble, eq_comm]
  · rename_i hn
    have htwice := twice.toNat_lt
    simp only [reduceCtorEq, false_iff]
    omega

theorem checkedDouble_eq_none_iff : checkedDouble n = none ↔ 2 ^ 31 ≤ n.toNat := by
  have hsize : UInt32.size = 2 ^ 32 := rfl
  rw [checkedDouble]
  split
  · rename_i hn
    simp only [reduceCtorEq, false_iff]
    omega
  · rename_i hn
    simp only [true_iff]
    omega

/-! ## Sizes -/

theorem sizeWith_of_naturalSize (h : t.naturalSize = some size) (real : UInt32) :
    t.sizeWith real = some size := by
  cases t
  case float80 | imaginary80 | complex80 => cases h
  all_goals exact h

/-- The doubling is the only arithmetic in a size, and `complex80` the only type that needs it. -/
theorem sizeWith_eq_none_iff (t : BasicType) (real : UInt32) :
    t.sizeWith real = none ↔ t = complex80 ∧ 2 ^ 31 ≤ real.toNat := by
  cases t
  case complex80 => simp only [sizeWith, checkedDouble_eq_none_iff, true_and]
  all_goals simp [sizeWith]

/-- The types whose size is a fact of the target. -/
def extendedTypes : List BasicType := [float80, imaginary80, complex80]

/-- The size of a type depends on the storage size only for the extended types. -/
theorem sizeWith_const_iff (t : BasicType) (real : UInt32) :
    (∀ other, t.sizeWith other = t.sizeWith real) ↔ t ∉ extendedTypes := by
  constructor
  · rintro h hmem
    -- no extended type has one size for storage sizes of no byte and of one byte
    have hsame : t.sizeWith 0 = t.sizeWith 1 := (h 0).trans (h 1).symm
    simp only [extendedTypes, List.mem_cons, List.not_mem_nil, or_false] at hmem
    rcases hmem with rfl | rfl | rfl
    all_goals exact absurd hsame (by decide)
  · intro hmem other
    cases t
    case float80 | imaginary80 | complex80 => exact absurd hmem (by decide)
    all_goals rfl

end BasicType

/-! ## Categories -/

/-- The categories of floating-point types. -/
inductive FloatCategory where
  | single
  | double
  | extended
  deriving DecidableEq, Repr

namespace FloatCategory

/-- The type of real numbers of a category. -/
def real : FloatCategory → BasicType
  | single => .float32
  | double => .float64
  | extended => .float80

/-- The type of imaginary numbers of a category. -/
def imaginary : FloatCategory → BasicType
  | single => .imaginary32
  | double => .imaginary64
  | extended => .imaginary80

/-- The type of complex numbers of a category. -/
def complex : FloatCategory → BasicType
  | single => .complex32
  | double => .complex64
  | extended => .complex80

variable {size : UInt32}

theorem sizeWith_imaginary (k : FloatCategory) (storage : UInt32) :
    k.imaginary.sizeWith storage = k.real.sizeWith storage := by
  cases k <;> rfl

theorem exists_sizeWith_real (k : FloatCategory) (storage : UInt32) :
    ∃ size, k.real.sizeWith storage = some size := by
  cases k <;> exact ⟨_, rfl⟩

/-- Every complex size is what the checked doubling makes of the real one: the two that are written
down are the doubles of four and of eight. -/
theorem sizeWith_complex (k : FloatCategory) {storage : UInt32}
    (h : k.real.sizeWith storage = some size) :
    k.complex.sizeWith storage = BasicType.checkedDouble size := by
  cases k <;> cases h <;> rfl

/-- The sizes of a category at every storage size of the extended float. An imaginary type has the
size of the real type. A complex type has exactly twice that size and no other, as long as this is a
word; it has no size for an extended float of `2 ^ 31` bytes or more, and no other type is without
one. Outside the extended types no size depends on the storage size. -/
theorem sizeWith_component_law (storage : UInt32) :
    (∀ k : FloatCategory,
      k.imaginary.sizeWith storage = k.real.sizeWith storage ∧
        ∃ size, k.real.sizeWith storage = some size ∧
          (∀ twice, k.complex.sizeWith storage = some twice ↔
            twice.toNat = 2 * size.toNat) ∧
          (k.complex.sizeWith storage = none ↔ k = extended ∧ 2 ^ 31 ≤ storage.toNat)) ∧
      (∀ t : BasicType, t.sizeWith storage = none ↔ t = .complex80 ∧ 2 ^ 31 ≤ storage.toNat) ∧
      ∀ t : BasicType,
        (∀ other, t.sizeWith other = t.sizeWith storage) ↔ t ∉ BasicType.extendedTypes := by
  refine ⟨fun k => ⟨k.sizeWith_imaginary storage, ?_⟩, fun t => t.sizeWith_eq_none_iff storage,
    fun t => t.sizeWith_const_iff storage⟩
  obtain ⟨size, hsize⟩ := k.exists_sizeWith_real storage
  refine ⟨size, hsize, ?_, ?_⟩
  · intro twice
    rw [k.sizeWith_complex hsize, BasicType.checkedDouble_eq_some_iff]
  · have hcomplex : k.complex = .complex80 ↔ k = extended := by
      cases k <;> decide
    rw [BasicType.sizeWith_eq_none_iff, hcomplex]

/-- Two extended floats of `2 ^ 31` bytes each would need twice as many, and there is no word for
their size. -/
theorem sizeWith_complex_overflows :
    extended.real.sizeWith 0x80000000 = some 0x80000000 ∧
      extended.complex.sizeWith 0x80000000 = none ∧
      ¬ ∃ twice, extended.complex.sizeWith 0x80000000 = some twice ∧
        twice.toNat = 2 * (0x80000000 : UInt32).toNat := by
  have hnone : extended.complex.sizeWith 0x80000000 = none := by decide
  refine ⟨rfl, hnone, ?_⟩
  rintro ⟨twice, htwice, -⟩
  rw [hnone] at htwice
  cases htwice

end FloatCategory

end TargetAbi
