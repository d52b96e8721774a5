import Mathlib.Algebra.Order.Ring.Int
import Mathlib.Data.Int.ModEq
import TargetAbi.Proofs.Constant.Constructible
import TargetAbi.Proofs.Constant.Value

/-!
# Words reduced to the width of a type

Any word can be made a constant of an integer type. The constant stands for the only number in the
range of the type that is congruent to the word modulo `2 ^ width` (`eq_valueOf_extend_iff`). Which
constant it is therefore depends on the low bits of the word and on nothing else
(`extend_eq_extend_iff`), and the word of a constant gives the constant again (`extend_extend`). The
constructors that take a number of the type agree with this, and no other type has integer constants
(`integer?_reduces`).
-/

set_option autoImplicit false

namespace TargetAbi

/-- The decimal numeral of an integer is the usual one. -/
theorem Numeral.signedDecimal_eq_toString (i : Int) : Numeral.signedDecimal i = toString i := by
  cases i with
  | ofNat n =>
    have hsign : ¬ Int.ofNat n < 0 := Int.not_lt.2 (Int.natCast_nonneg n)
    rw [Numeral.signedDecimal, if_neg hsign]
    rfl
  | negSucc n =>
    rw [Numeral.signedDecimal, if_pos (Int.negSucc_lt_zero n), String.ofList_cons]
    rfl

theorem Constant.integer?_toBasic (t : IntegerType) (raw : UInt64) :
    Constant.integer? t.toBasic raw = .ok (.integer t (t.extend raw)) := by
  rw [Constant.integer?, IntegerType.ofBasic?_toBasic]

namespace IntegerType

variable {t : IntegerType} {i j : Int} {v w raw : UInt64}

/-- No two numbers in the range of a type are congruent modulo `2 ^ width`. -/
theorem InRange.eq_of_modEq (hi : t.InRange i) (hj : t.InRange j)
    (h : i ≡ j [ZMOD 2 ^ t.width]) : i = j := by
  have hdvd : (2 ^ t.width : Int) ∣ j - i := h.dvd
  have hdist : |j - i| < 2 ^ t.width := by
    have hpow : (2 : Int) ^ t.width = 2 * 2 ^ (t.width - 1) := by
      cases t <;> rfl
    unfold InRange at hi hj
    rw [abs_lt]
    cases ht : t.signedness with
    | signed =>
      rw [ht] at hi hj
      omega
    | unsigned =>
      rw [ht] at hi hj
      omega
  have hzero := Int.eq_zero_of_abs_lt_dvd hdvd hdist
  omega

/-- The low bits of the word of a constant are those of the word that it was made from. -/
theorem toNat_extend_modEq (t : IntegerType) (raw : UInt64) :
    (t.extend raw).toNat ≡ raw.toNat [MOD 2 ^ t.width] := by
  have hlow : (t.extend raw).toBitVec.setWidth t.width = raw.toBitVec.setWidth t.width := by
    rw [t.extend_eq_widen]
    exact BasicType.setWidth_widen t.toBasic t.width_le _
  have hnat := congrArg BitVec.toNat hlow
  rwa [BitVec.toNat_setWidth, BitVec.toNat_setWidth] at hnat

/-- The number of a word of the type is congruent to the word. -/
theorem valueOf_modEq (t : IntegerType) (w : UInt64) :
    t.valueOf w ≡ w.toNat [ZMOD 2 ^ t.width] := by
  have hdvd : (2 ^ t.width : Int) ∣ 2 ^ 64 := pow_dvd_pow 2 t.width_le
  cases ht : t.signedness with
  | signed =>
    have hvalue : t.valueOf w = (w.toNat : Int).bmod (2 ^ 64) := by
      rw [valueOf, ht]
      exact BitVec.toInt_eq_toNat_bmod w.toBitVec
    have hmod : t.valueOf w ≡ w.toNat [ZMOD 2 ^ 64] := by
      rw [hvalue]
      exact Int.bmod_emod
    exact hmod.of_dvd hdvd
  | unsigned =>
    rw [valueOf, ht]

/-- The number of a constant is congruent to the word that the constant was made from. -/
theorem valueOf_extend_modEq (t : IntegerType) (raw : UInt64) :
    t.valueOf (t.extend raw) ≡ raw.toNat [ZMOD 2 ^ t.width] := by
  have hlow := Int.natCast_modEq_iff.2 (t.toNat_extend_modEq raw)
  push_cast at hlow
  exact (t.valueOf_modEq _).trans hlow

/-- A word is reduced to the only number in the range of the type that is congruent to it. -/
theorem eq_valueOf_extend_iff :
    i = t.valueOf (t.extend raw) ↔ t.InRange i ∧ i ≡ raw.toNat [ZMOD 2 ^ t.width] := by
  have hrange : t.InRange (t.valueOf (t.extend raw)) :=
    inRange_valueOf (Constant.isNormal_of_integer?_eq_ok (Constant.integer?_toBasic t raw))
  have hmod := t.valueOf_extend_modEq raw
  constructor
  · rintro rfl
    exact ⟨hrange, hmod⟩
  · rintro ⟨hi, hi'⟩
    exact hi.eq_of_modEq hrange (hi'.trans hmod.symm)

/-- Words are reduced to one number exactly if they agree in the low bits. -/
theorem extend_eq_extend_iff :
    t.extend v = t.extend w ↔ v.toNat ≡ w.toNat [MOD 2 ^ t.width] := by
  have hv := t.toNat_extend_modEq v
  have hw := t.toNat_extend_modEq w
  constructor
  · intro h
    rw [h] at hv
    exact hv.symm.trans hw
  · intro h
    have hcast := Int.natCast_modEq_iff.2 h
    push_cast at hcast
    have hrange : t.InRange (t.valueOf (t.extend v)) := (eq_valueOf_extend_iff.1 rfl).1
    apply t.valueOf_injective
    exact eq_valueOf_extend_iff.2 ⟨hrange, (t.valueOf_extend_modEq v).trans hcast⟩

/-- A word that was extended is left as it is. -/
theorem extend_extend (t : IntegerType) (raw : UInt64) : t.extend (t.extend raw) = t.extend raw :=
  extend_eq_extend_iff.2 (t.toNat_extend_modEq raw)

end IntegerType

namespace Constant

open IntegerType (eq_valueOf_extend_iff extend_eq_extend_iff extend_extend)

variable {t : IntegerType} {raw b : UInt64}

/-- The constant of a number in the range of its type is made from the words congruent to the
number. -/
theorem integer?_eq_ok_iff_of_valueOf {n : Int} (hb : t.valueOf b = n) (hn : t.InRange n) :
    integer? t.toBasic raw = .ok (integer t b) ↔ n ≡ raw.toNat [ZMOD 2 ^ t.width] := by
  have hvalue : t.valueOf (t.extend raw) = n ↔ t.InRange n ∧ n ≡ raw.toNat [ZMOD 2 ^ t.width] :=
    eq_comm.trans eq_valueOf_extend_iff
  rw [integer?_toBasic, Except.ok.injEq, integer.injEq, ← t.valueOf_injective.eq_iff, hb, hvalue]
  simp [hn]

theorem integer?_eq_error_iff {s : BasicType} {e : ReinterpretError} :
    integer? s raw = .error e ↔
      s ∉ [.int32, .uns32, .int64, .uns64] ∧ e = .unsupportedSource s := by
  cases s <;> simp [integer?, IntegerType.ofBasic?, eq_comm]

/-- An integer constant is made from a word by reduction modulo `2 ^ width`. Its number, which is
also the one that its text shows, is the only number in the range of the type that is congruent to
the word; two words give the same constant exactly if they are congruent, and the word of the
constant gives the constant itself. The constructors that take a number make what the words
congruent to the number make. Every other type is refused. -/
theorem integer?_reduces (raw : UInt64) :
    (∀ t : IntegerType, ∃ b, integer? t.toBasic raw = .ok (integer t b) ∧
        (∀ i, i = t.valueOf b ↔ t.InRange i ∧ i ≡ raw.toNat [ZMOD 2 ^ t.width]) ∧
        (integer t b).text = toString (t.valueOf b) ∧
        (∀ w : UInt64, integer? t.toBasic w = integer? t.toBasic raw ↔
          w.toNat ≡ raw.toNat [MOD 2 ^ t.width]) ∧
        integer? t.toBasic b = integer? t.toBasic raw) ∧
      (∀ n : Int32, integer? .int32 raw = .ok (int32 n) ↔ n.toInt ≡ raw.toNat [ZMOD 2 ^ 32]) ∧
      (∀ n : UInt32, integer? .uns32 raw = .ok (uns32 n) ↔ n.toNat ≡ raw.toNat [ZMOD 2 ^ 32]) ∧
      (∀ n : Int64, integer? .int64 raw = .ok (int64 n) ↔ n.toInt ≡ raw.toNat [ZMOD 2 ^ 64]) ∧
      (∀ n : UInt64, integer? .uns64 raw = .ok (uns64 n) ↔ n.toNat ≡ raw.toNat [ZMOD 2 ^ 64]) ∧
      ∀ s e, integer? s raw = .error e ↔
        s ∉ [.int32, .uns32, .int64, .uns64] ∧ e = .unsupportedSource s := by
  refine ⟨?_, ?_, ?_, ?_, ?_, fun s e => integer?_eq_error_iff⟩
  · intro t
    refine ⟨t.extend raw, integer?_toBasic t raw, fun i => eq_valueOf_extend_iff, ?_, ?_, ?_⟩
    · exact Numeral.signedDecimal_eq_toString _
    · intro w
      simp [integer?_toBasic, extend_eq_extend_iff]
    · rw [integer?_toBasic, integer?_toBasic, extend_extend]
  · intro n
    have hvalue : IntegerType.int32.valueOf n.toInt64.toUInt64 = n.toInt := by
      simp [IntegerType.valueOf, IntegerType.signedness]
    exact integer?_eq_ok_iff_of_valueOf hvalue ⟨n.le_toInt, n.toInt_lt⟩
  · intro n
    have hvalue : IntegerType.uns32.valueOf n.toUInt64 = n.toNat := by
      simp [IntegerType.valueOf, IntegerType.signedness]
    exact integer?_eq_ok_iff_of_valueOf hvalue ⟨Int.natCast_nonneg _, by exact_mod_cast n.toNat_lt⟩
  · intro n
    have hvalue : IntegerType.int64.valueOf n.toUInt64 = n.toInt := by
      simp [IntegerType.valueOf, IntegerType.signedness]
    exact integer?_eq_ok_iff_of_valueOf hvalue ⟨n.le_toInt, n.toInt_lt⟩
  · intro n
    have hvalue : IntegerType.uns64.valueOf n = n.toNat := rfl
    exact integer?_eq_ok_iff_of_valueOf hvalue ⟨Int.natCast_nonneg _, by exact_mod_cast n.toNat_lt⟩

/-- The high half of the word does not count, and bit 31 is the sign. -/
example : integer? .int32 0x12345678FFFFFFFE = .ok (int32 (-2)) := by
  decide

end Constant

end TargetAbi
