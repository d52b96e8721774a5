import TargetAbi.Proofs.Binary.Rounding
import TargetAbi.Proofs.Numeral

/-!
# Rounding decimal numbers

`ofDecimal` rounds a decimal number to the nearest value, however many digits it has and however
large its exponent is (`rounds_ofDecimal`). Numbers so large or so small that the number of their
digits tells it are not computed: they are at least `overflow`, or less than half a unit.
-/

set_option autoImplicit false

namespace TargetAbi.Binary.Format

open Numeral

variable {f : Format} {q : ℚ}

/-- A decimal number lies between the powers of ten at the place of its first digit and above. -/
theorem decimal_bounds {digits : Nat} (hdigits : digits ≠ 0) (exponent : Int) :
    (10 : ℚ) ^ ((Nat.toDigits 10 digits).length + exponent - 1) ≤ digits * 10 ^ exponent ∧
      (digits : ℚ) * 10 ^ exponent < 10 ^ ((Nat.toDigits 10 digits).length + exponent) := by
  have hpos : 0 < (Nat.toDigits 10 digits).length := Nat.length_toDigits_pos
  have hscale : (0 : ℚ) < 10 ^ exponent := by positivity
  constructor
  · have hle : ((10 : ℚ) ^ ((Nat.toDigits 10 digits).length - 1)) ≤ digits := by
      exact_mod_cast pow_length_toDigits_le hdigits
    calc (10 : ℚ) ^ ((Nat.toDigits 10 digits).length + exponent - 1)
        = 10 ^ ((Nat.toDigits 10 digits).length - 1) * 10 ^ exponent := by
          rw [mul_comm, zpow_mul_pow (by norm_num)]
          omega
      _ ≤ digits * 10 ^ exponent := mul_le_mul_of_nonneg_right hle hscale.le
  · have hlt : (digits : ℚ) < 10 ^ (Nat.toDigits 10 digits).length := by
      exact_mod_cast lt_pow_length_toDigits digits
    calc (digits : ℚ) * 10 ^ exponent
        < 10 ^ (Nat.toDigits 10 digits).length * 10 ^ exponent :=
          mul_lt_mul_of_pos_right hlt hscale
      _ = 10 ^ ((Nat.toDigits 10 digits).length + exponent) := by
          rw [mul_comm, zpow_mul_pow (by norm_num)]
          omega

/-- The first power of two after the finite values is too large. -/
theorem overflow_le (f : Format) : f.overflow ≤ 2 ^ f.maxExponent := by
  have hhalf : (0 : ℚ) < 2 ^ (-f.precision : Int) := by positivity
  have hscale : (0 : ℚ) < 2 ^ f.bias := by positivity
  calc f.overflow ≤ 2 * 2 ^ f.bias := mul_le_mul_of_nonneg_right (by linarith) hscale.le
    _ = 2 ^ f.maxExponent := by
      rw [mul_comm, ← zpow_add_one₀ (by norm_num), bias, Int.sub_add_cancel, zpow_natCast]

/-- Numbers of at least `10 ^ n` are rounded to infinity if `8 ^ n` is too large. -/
theorem rounds_infinity_of_le {n : Nat} (hn : f.maxExponent ≤ 3 * n) (hq : 10 ^ n ≤ q) :
    f.Rounds q f.infinity := by
  apply Rounds.infinite
  calc f.overflow ≤ 2 ^ f.maxExponent := f.overflow_le
    _ ≤ 2 ^ (3 * n) := pow_le_pow_right₀ (by norm_num) hn
    _ = 8 ^ n := by
      rw [pow_mul]
      norm_num
    _ ≤ 10 ^ n := pow_le_pow_left₀ (by norm_num) (by norm_num) n
    _ ≤ q := hq

/-- Numbers of less than half a unit are rounded to zero. -/
theorem rounds_zero_of_lt (hf : f.IsInterchange) (hnonneg : 0 ≤ q)
    (hq : q * 2 ^ (f.unitExponent + 1) < 1) : f.Rounds q 0 := by
  have hunit : (0 : ℚ) < 2 ^ f.unitExponent := by positivity
  apply rounds_of_contains hf hf.infinity_pos
  rw [contains_readingInterval_iff, Nat.zero_sub, units_zero, units_one]
  rw [pow_succ] at hq
  refine ⟨?_, ?_, Or.inl rfl⟩
  · rw [Nat.cast_zero, add_zero]
    positivity
  · push_cast
    linarith

/-- Numbers below `10 ^ (-n)` are rounded to zero if `8 ^ (-n)` is at most half a unit. -/
theorem rounds_zero_of_small (hf : f.IsInterchange) {n : Nat} (hn : f.unitExponent < 3 * n)
    (hnonneg : 0 ≤ q) (hq : q * 10 ^ n < 1) : f.Rounds q 0 := by
  have hpow : (2 : ℚ) ^ (f.unitExponent + 1) ≤ 10 ^ n := by
    calc (2 : ℚ) ^ (f.unitExponent + 1) ≤ 2 ^ (3 * n) := pow_le_pow_right₀ (by norm_num) hn
      _ = 8 ^ n := by
        rw [pow_mul]
        norm_num
      _ ≤ 10 ^ n := pow_le_pow_left₀ (by norm_num) (by norm_num) n
  apply rounds_zero_of_lt hf hnonneg
  exact lt_of_le_of_lt (mul_le_mul_of_nonneg_left hpow hnonneg) hq

/-- A decimal number is rounded to the nearest value. -/
theorem rounds_ofDecimal (hf : f.IsInterchange) (digits : Nat) (exponent : Int) :
    f.Rounds (digits * 10 ^ exponent) (f.ofDecimal digits exponent) := by
  unfold ofDecimal
  dsimp only
  split_ifs with hzero hlarge hsmall hwhole
  · subst hzero
    apply rounds_zero_of_lt hf
    · simp
    · simp
  · obtain ⟨hleast, -⟩ := decimal_bounds hzero exponent
    have hexponent := hf.two_le_maxExponent
    obtain ⟨n, hn⟩ := Int.eq_ofNat_of_zero_le
      (by omega : 0 ≤ (Nat.toDigits 10 digits).length + exponent - 1)
    rw [hn, zpow_natCast] at hleast
    exact rounds_infinity_of_le (by omega) hleast
  · obtain ⟨-, hmost⟩ := decimal_bounds hzero exponent
    obtain ⟨n, hn⟩ := Int.eq_ofNat_of_zero_le
      (by omega : 0 ≤ -((Nat.toDigits 10 digits).length + exponent))
    rw [← neg_neg ((Nat.toDigits 10 digits).length + exponent), hn, zpow_neg, zpow_natCast,
      ← one_div, lt_div_iff₀ (by positivity)] at hmost
    exact rounds_zero_of_small hf (by omega) (by positivity) hmost
  · obtain ⟨n, rfl⟩ := Int.eq_ofNat_of_zero_le hwhole
    have h := rounds_ofQuotient hf (digits * 10 ^ n) Nat.one_pos
    simpa using h
  · obtain ⟨n, hn⟩ := Int.eq_ofNat_of_zero_le (by omega : 0 ≤ -exponent)
    have hpow : 0 < 10 ^ n := Nat.pow_pos (by decide)
    have h := rounds_ofQuotient hf digits hpow
    rw [hn, Int.toNat_natCast, Nat.pow_eq, ← neg_neg exponent, hn, zpow_neg, zpow_natCast,
      ← div_eq_mul_inv]
    exact_mod_cast h

end TargetAbi.Binary.Format
