import TargetAbi.Proofs.Constant.Memory

/-!
# Constructible constants

The constants that programs can hold are those that a constructor makes and those that come from
them by reinterpretation. Each of the ways to make a constant restores the normal form
(`Constructible.isNormal`), so the type and the low bits tell constructible constants apart
(`constructible_representation`).
-/

set_option autoImplicit false

namespace TargetAbi.Constant

/-- A constant made by a constructor and then reinterpreted any number of times, on machines of
either byte order. -/
inductive Constructible : Constant → Prop
  | int32 (n : Int32) : Constructible (.int32 n)
  | uns32 (n : UInt32) : Constructible (.uns32 n)
  | int64 (n : Int64) : Constructible (.int64 n)
  | uns64 (n : UInt64) : Constructible (.uns64 n)
  | float32 (pattern : UInt32) : Constructible (.float32 pattern)
  | float64 (pattern : UInt64) : Constructible (.float64 pattern)
  | integer {t : BasicType} {raw : UInt64} {c : Constant} :
      integer? t raw = .ok c → Constructible c
  | reinterpret (order : ByteOrder) {c d : Constant} {t : BasicType} :
      Constructible c → c.reinterpret order t = .ok d → Constructible d

/-- In a constant of eight bytes there are no bits to extend. -/
theorem isNormal_of_size_eq_eight {c : Constant} (h : c.size = 8) : c.IsNormal := by
  have hwidth : 64 = 8 * c.size.toNat := by rw [h]; rfl
  exact (isNormal_of_bits_eq_widen hwidth (c.type.widen_toBitVec c.bits).symm).1

theorem isNormal_of_integer?_eq_ok {t : BasicType} {raw : UInt64} {c : Constant}
    (h : integer? t raw = .ok c) : c.IsNormal := by
  unfold integer? at h
  cases ht : IntegerType.ofBasic? t with
  | none =>
    rw [ht] at h
    cases h
  | some i =>
    rw [ht] at h
    cases h
    have hbits : (integer i (i.extend raw)).bits = _ := i.extend_eq_widen raw
    exact (isNormal_of_bits_eq_widen rfl hbits).1

/-- Every way to make a constant restores the normal form. -/
theorem Constructible.isNormal {c : Constant} (hc : Constructible c) : c.IsNormal := by
  induction hc with
  | int32 n => exact (isNormal_of_bits_eq_widen (x := n.toBitVec) rfl rfl).1
  | uns32 n => exact (isNormal_of_bits_eq_widen (x := n.toBitVec) rfl rfl).1
  | int64 n => exact isNormal_of_size_eq_eight rfl
  | uns64 n => exact isNormal_of_size_eq_eight rfl
  | float32 pattern => exact (isNormal_of_bits_eq_widen (x := pattern.toBitVec) rfl rfl).1
  | float64 pattern => exact isNormal_of_size_eq_eight rfl
  | integer h => exact isNormal_of_integer?_eq_ok h
  | reinterpret order _ h _ => exact isNormal_of_reinterpret h

/-- In a normal constant of single precision the high half of the word is zero. -/
theorem toNat_bits_lt_of_isNormal {b : UInt64} (h : (float .f32 b).IsNormal) :
    b.toNat < 2 ^ 32 :=
  bits_lt_of_unsigned h rfl

/-- The representation of constructible constants: integers are extended from the low bits by sign
or by zeros, single floats leave the high half of the word empty, and the size is that of the type.
Two of them are equal exactly when they agree in type and low bits. -/
theorem constructible_representation {c d : Constant} (hc : Constructible c)
    (hd : Constructible d) :
    (∀ t b, c = integer t b →
        t.toBasic ∈ [.int32, .uns32, .int64, .uns64] ∧ b = t.toBasic.widen c.lowBits) ∧
      (∀ b, c = float .f32 b → b.toNat < 2 ^ 32) ∧
      c.type.naturalSize = some c.size ∧
      (c = d ↔ c.type = d.type ∧ c.lowBits.toNat = d.lowBits.toNat) := by
  have hnormal := hc.isNormal
  refine ⟨?_, ?_, naturalSize_type c, ?_, ?_⟩
  · rintro t b rfl
    exact ⟨by cases t <;> decide, hnormal⟩
  · rintro b rfl
    exact toNat_bits_lt_of_isNormal hnormal
  · rintro rfl
    exact ⟨rfl, rfl⟩
  · rintro ⟨htype, hlow⟩
    exact eq_of_lowBits hnormal hd.isNormal htype hlow

/-- The two zeros of single precision are different constants. -/
theorem constructible_representation_zeros :
    Constructible (.float32 0x80000000) ∧ Constructible (.float32 0) ∧
      Constant.float32 0x80000000 ≠ .float32 0 := by
  have hrep := constructible_representation (.float32 0x80000000) (.float32 0)
  refine ⟨.float32 _, .float32 _, fun heq => ?_⟩
  obtain ⟨-, hlow⟩ := hrep.2.2.2.1 heq
  exact absurd hlow (by decide)

end TargetAbi.Constant
