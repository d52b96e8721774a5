import Mathlib.Algebra.Group.Nat.Defs
import Mathlib.Algebra.Ring.Int.Defs
import TargetAbi.Proofs.Constant.Memory

/-!
# The numbers that integer constants stand for

The word of a signed type stands for the number that its low bits are in two's complement, the word
of an unsigned type for the number that they are as they stand (`valueOf_widen_signed`,
`valueOf_widen_unsigned`). So a number in the range of a type, cut to the width of the type and
extended again, is still the number of the word (`valueOf_extend_ofInt`), and the word of a normal
constant is found again from its number (`extend_ofInt_valueOf`).
-/

set_option autoImplicit false

namespace TargetAbi.IntegerType

/-- Width in bits. -/
def width (t : IntegerType) : Nat := 8 * t.size.toNat

/-- The numbers that constants of a type stand for. -/
def InRange (t : IntegerType) (i : Int) : Prop :=
  match t.signedness with
  | .signed => -2 ^ (t.width - 1) ≤ i ∧ i < 2 ^ (t.width - 1)
  | .unsigned => 0 ≤ i ∧ i < 2 ^ t.width

variable {t : IntegerType}

theorem width_le (t : IntegerType) : t.width ≤ 64 :=
  Nat.mul_le_mul_left 8 t.size_le_eight

theorem isSigned_of_signed (ht : t.signedness = .signed) : t.toBasic.isSigned = true := by
  cases t <;> first | rfl | cases ht

theorem isSigned_of_unsigned (ht : t.signedness = .unsigned) : t.toBasic.isSigned = false := by
  cases t <;> first | rfl | cases ht

theorem valueOf_widen_signed (ht : t.signedness = .signed) (x : BitVec t.width) :
    t.valueOf (t.toBasic.widen x) = x.toInt := by
  have hword : (t.toBasic.widen x).toBitVec = x.signExtend 64 := by
    simp [BasicType.widen, isSigned_of_signed ht]
  have hvalue : t.valueOf (t.toBasic.widen x) = (t.toBasic.widen x).toBitVec.toInt := by
    rw [valueOf, ht]
    rfl
  rw [hvalue, hword, BitVec.toInt_signExtend_of_le t.width_le]

theorem valueOf_widen_unsigned (ht : t.signedness = .unsigned) (x : BitVec t.width) :
    t.valueOf (t.toBasic.widen x) = x.toNat := by
  rw [valueOf, ht]
  exact congrArg Int.ofNat
    (BasicType.toNat_widen_of_unsigned (isSigned_of_unsigned ht) t.width_le x)

theorem ofInt_natCast (n : Nat) : UInt64.ofInt n = UInt64.ofNat n := by
  have hmod : ((n : Int) % 2 ^ 64).toNat = n % 2 ^ 64 := by omega
  apply UInt64.toNat_inj.mp
  rw [UInt64.ofInt, hmod, UInt64.toNat_ofNat', UInt64.toNat_ofNat', Nat.mod_mod]

/-- The low bits of the word of a number are the number modulo a power of two. -/
theorem toNat_setWidth_ofInt {n : Nat} (hn : n ≤ 64) (i : Int) :
    (((UInt64.ofInt i).toBitVec.setWidth n).toNat : Int) = i % (2 ^ n : Nat) := by
  have hpow : (2 ^ n : Nat) ∣ 2 ^ 64 := Nat.pow_dvd_pow 2 hn
  have hnonneg : 0 ≤ i % 2 ^ 64 := Int.emod_nonneg i (by decide)
  rw [UInt64.ofInt, UInt64.toBitVec_ofNat', BitVec.toNat_setWidth, BitVec.toNat_ofNat,
    Nat.mod_mod_of_dvd _ hpow, Int.natCast_emod, Int.toNat_of_nonneg hnonneg]
  exact Int.emod_emod_of_dvd i (Int.natCast_dvd_natCast.2 hpow)

/-- A number in the range of a type is the number of its word. -/
theorem valueOf_extend_ofInt {i : Int} (hi : t.InRange i) :
    t.valueOf (t.extend (UInt64.ofInt i)) = i := by
  have hlow := toNat_setWidth_ofInt t.width_le i
  have hextend : t.extend (UInt64.ofInt i) =
      t.toBasic.widen ((UInt64.ofInt i).toBitVec.setWidth t.width) := t.extend_eq_widen _
  rw [hextend]
  cases ht : t.signedness with
  | signed =>
    rw [InRange, ht] at hi
    have hpow : 2 ^ t.width = 2 * 2 ^ (t.width - 1) := by
      cases t <;> rfl
    -- the range of a signed type is that of the balanced remainders
    have hmod : i.bmod (2 ^ t.width) = i := by
      apply Int.bmod_eq_of_le
      · push_cast [hpow]
        omega
      · push_cast [hpow]
        omega
    rw [valueOf_widen_signed ht, BitVec.toInt_eq_toNat_bmod, hlow, Int.emod_bmod, hmod]
  | unsigned =>
    rw [InRange, ht] at hi
    rw [valueOf_widen_unsigned ht, hlow]
    push_cast
    exact Int.emod_eq_of_lt hi.1 hi.2

/-- Different words stand for different numbers. -/
theorem valueOf_injective (t : IntegerType) : Function.Injective t.valueOf := by
  intro v w h
  unfold valueOf at h
  split at h
  · have hbits : v.toInt64.toBitVec = w.toInt64.toBitVec :=
      congrArg Int64.toBitVec (Int64.toInt_inj.1 h)
    exact UInt64.toBitVec_inj.1 hbits
  · exact UInt64.toNat_inj.1 (Int.ofNat.inj h)

/-- The number of a normal constant lies in the range of its type. -/
theorem inRange_valueOf {w : UInt64} (h : (Constant.integer t w).IsNormal) :
    t.InRange (t.valueOf w) := by
  have hword : w = t.toBasic.widen (w.toBitVec.setWidth t.width) := h
  rw [hword, InRange]
  cases ht : t.signedness with
  | signed =>
    rw [valueOf_widen_signed ht]
    exact ⟨BitVec.le_toInt _, BitVec.toInt_lt⟩
  | unsigned =>
    rw [valueOf_widen_unsigned ht]
    exact ⟨Int.natCast_nonneg _, by exact_mod_cast (w.toBitVec.setWidth t.width).isLt⟩

/-- The word of a normal constant is that of its number. -/
theorem extend_ofInt_valueOf {w : UInt64} (h : (Constant.integer t w).IsNormal) :
    t.extend (UInt64.ofInt (t.valueOf w)) = w :=
  t.valueOf_injective (valueOf_extend_ofInt (inRange_valueOf h))

end TargetAbi.IntegerType
