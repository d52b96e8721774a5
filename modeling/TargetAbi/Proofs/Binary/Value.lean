import Mathlib.Algebra.Order.Field.Power
import Mathlib.Algebra.Order.Ring.Rat
import Mathlib.Order.Monotone.Basic
import Mathlib.Tactic.FieldSimp
import Mathlib.Tactic.Positivity
import Mathlib.Tactic.Ring
import TargetAbi.Binary.Format

/-!
# Values of patterns

The rational number that a finite magnitude stands for, from its exponent field and its fraction
(`Format.value`). It is the number of units times the size of a unit (`value_eq_units`). Units grow
strictly with the magnitude, by a power of two at each step (`units_succ`), and so do the values.

A magnitude is read as a significand of at most `precision` bits and a shift. The one that is
`shift * hiddenBit + r` stands for `r * 2 ^ shift` units, where a shift needs a significand that has
the hidden bit (`units_significand`).

A pattern is its sign and its magnitude (`withSign_magnitude`). The magnitudes of NaNs lie above
that of infinity (`isNaN_iff`).
-/

set_option autoImplicit false

namespace TargetAbi

namespace Binary

/-- Powers are multiplied by adding their exponents, of which the first one may be negative. -/
theorem zpow_mul_pow {a : ℚ} (ha : a ≠ 0) {i j : Int} {n : Nat} (h : i + n = j) :
    a ^ i * a ^ n = a ^ j := by
  rw [← h, zpow_add₀ ha, zpow_natCast]

namespace Format

variable {f : Format}

/-- The formats with room for normal numbers and for a fraction. -/
structure IsInterchange (f : Format) : Prop where
  two_le_precision : 2 ≤ f.precision
  two_le_exponentBits : 2 ≤ f.exponentBits

/-! ## The parameters of a format -/

/-- The bias of the exponent field, which is also the exponent of the largest finite numbers. -/
def bias (f : Format) : Int := f.maxExponent - 1

theorem hiddenBit_pos (f : Format) : 0 < f.hiddenBit := Nat.two_pow_pos _

theorem hiddenBit_eq (f : Format) : f.hiddenBit = 2 ^ (f.precision - 1) := rfl

theorem maxExponent_eq (f : Format) : f.maxExponent = 2 ^ (f.exponentBits - 1) := rfl

theorem IsInterchange.hiddenBit_even (hf : f.IsInterchange) : f.hiddenBit % 2 = 0 := by
  have hprecision := hf.two_le_precision
  have hsplit : f.precision - 1 = f.precision - 2 + 1 := by omega
  rw [hiddenBit_eq, hsplit, Nat.pow_succ]
  omega

theorem IsInterchange.two_le_maxExponent (hf : f.IsInterchange) : 2 ≤ f.maxExponent := by
  have hbits := hf.two_le_exponentBits
  have hle : 2 ^ 1 ≤ 2 ^ (f.exponentBits - 1) := Nat.pow_le_pow_right (by decide) (by omega)
  rwa [maxExponent_eq]

/-- Two significands of `precision` bits carry into the exponent field. -/
theorem IsInterchange.two_pow_precision (hf : f.IsInterchange) :
    2 ^ f.precision = 2 * f.hiddenBit := by
  have hprecision := hf.two_le_precision
  rw [hiddenBit_eq, ← Nat.pow_succ']
  congr 1
  omega

theorem IsInterchange.two_pow_exponentBits (hf : f.IsInterchange) :
    2 ^ f.exponentBits = 2 * f.maxExponent := by
  have hbits := hf.two_le_exponentBits
  rw [maxExponent_eq, ← Nat.pow_succ']
  congr 1
  omega

/-- Below infinity the exponent field has every value but the last one. -/
theorem IsInterchange.infinity_eq (hf : f.IsInterchange) :
    f.infinity = (2 * f.maxExponent - 1) * f.hiddenBit := by
  rw [← hf.two_pow_exponentBits]
  rfl

theorem IsInterchange.infinity_eq_carry (hf : f.IsInterchange) :
    f.infinity = (2 * f.maxExponent - 3) * f.hiddenBit + 2 * f.hiddenBit := by
  have hexponent := hf.two_le_maxExponent
  rw [hf.infinity_eq, ← Nat.add_mul]
  congr 1
  omega

theorem IsInterchange.infinity_even (hf : f.IsInterchange) : f.infinity % 2 = 0 := by
  rw [hf.infinity_eq, Nat.mul_mod, hf.hiddenBit_even, Nat.mul_zero]

theorem IsInterchange.infinity_pos (hf : f.IsInterchange) : 0 < f.infinity := by
  have hexponent := hf.two_le_maxExponent
  rw [hf.infinity_eq]
  exact Nat.mul_pos (by omega) f.hiddenBit_pos

/-! ## Units -/

/-- A significand with its shift stands for as many units as their product. -/
theorem units_significand {shift r : Nat} (hr : r ≤ 2 * f.hiddenBit)
    (hnormal : shift = 0 ∨ f.hiddenBit ≤ r) :
    f.units (shift * f.hiddenBit + r) = r * 2 ^ shift := by
  have hpos := f.hiddenBit_pos
  have hdiv (n t : Nat) (ht : t < f.hiddenBit) : (n * f.hiddenBit + t) / f.hiddenBit = n := by
    rw [Nat.mul_comm, Nat.mul_add_div hpos, Nat.div_eq_of_lt ht, Nat.add_zero]
  have hmod (n t : Nat) (ht : t < f.hiddenBit) : (n * f.hiddenBit + t) % f.hiddenBit = t := by
    rw [Nat.add_comm, Nat.add_mul_mod_self_right, Nat.mod_eq_of_lt ht]
  -- subnormal, normal, or carried into the next exponent
  rcases Nat.lt_or_ge r f.hiddenBit with hlt | hge
  · obtain rfl : shift = 0 := hnormal.resolve_right (by omega)
    simp only [units, hdiv 0 r hlt, hmod 0 r hlt, if_true, Nat.pow_zero, Nat.mul_one]
  · rcases Nat.lt_or_ge r (2 * f.hiddenBit) with hlt | hge2
    · obtain ⟨t, rfl⟩ := Nat.exists_eq_add_of_le hge
      have ht : t < f.hiddenBit := by omega
      have hsum : shift * f.hiddenBit + (f.hiddenBit + t) = (shift + 1) * f.hiddenBit + t := by
        ring
      simp only [units, hsum, hdiv _ t ht, hmod _ t ht]
      simp
    · obtain rfl : r = 2 * f.hiddenBit := by omega
      have hsum : shift * f.hiddenBit + 2 * f.hiddenBit = (shift + 2) * f.hiddenBit + 0 := by
        ring
      simp only [units, hsum, hdiv _ 0 hpos, hmod _ 0 hpos]
      simp [Nat.pow_succ]
      ring

/-- Infinity is where the largest significand is carried at the largest shift. -/
theorem IsInterchange.units_infinity (hf : f.IsInterchange) :
    f.units f.infinity = 2 * f.hiddenBit * 2 ^ (2 * f.maxExponent - 3) := by
  rw [hf.infinity_eq_carry, units_significand (le_refl _) (Or.inr (by omega))]

/-- The last finite magnitude has the largest significand at the largest shift. -/
theorem IsInterchange.units_infinity_pred (hf : f.IsInterchange) :
    f.units (f.infinity - 1) = (2 * f.hiddenBit - 1) * 2 ^ (2 * f.maxExponent - 3) := by
  have hpos := f.hiddenBit_pos
  rw [hf.infinity_eq_carry, Nat.add_sub_assoc (by omega),
    units_significand (by omega) (Or.inr (by omega))]

/-- Every magnitude has a significand and a shift. -/
theorem exists_significand (f : Format) (m : Nat) :
    ∃ shift r, m = shift * f.hiddenBit + r ∧ r < 2 * f.hiddenBit ∧
      (shift = 0 ∨ f.hiddenBit ≤ r) := by
  have hpos := f.hiddenBit_pos
  rcases Nat.lt_or_ge m f.hiddenBit with hlt | hge
  · exact ⟨0, m, by omega, by omega, Or.inl rfl⟩
  · have hfield : 1 ≤ m / f.hiddenBit := (Nat.one_le_div_iff hpos).2 hge
    have hmod := Nat.mod_lt m hpos
    refine ⟨m / f.hiddenBit - 1, f.hiddenBit + m % f.hiddenBit, ?_, by omega, Or.inr (by omega)⟩
    have hdivmod := Nat.div_add_mod' m f.hiddenBit
    obtain ⟨n, hn⟩ := Nat.exists_eq_add_of_le' hfield
    rw [hn, Nat.add_mul] at hdivmod
    rw [hn, Nat.add_sub_cancel]
    omega

/-- The step from a magnitude to the next one is a power of two. -/
theorem units_succ (m : Nat) : ∃ shift, f.units (m + 1) = f.units m + 2 ^ shift := by
  obtain ⟨shift, r, rfl, hr, hnormal⟩ := f.exists_significand m
  refine ⟨shift, ?_⟩
  rw [Nat.add_assoc, units_significand hr.le hnormal,
    units_significand (by omega) (hnormal.imp_right (by omega)), Nat.add_mul, Nat.one_mul]

theorem strictMono_units (f : Format) : StrictMono f.units := by
  apply strictMono_nat_of_lt_succ
  intro m
  obtain ⟨shift, hstep⟩ := f.units_succ m
  have hpos : 0 < 2 ^ shift := Nat.two_pow_pos shift
  omega

theorem units_lt_units {m k : Nat} (h : m < k) : (f.units m : ℚ) < f.units k := by
  exact_mod_cast f.strictMono_units h

theorem units_le_units {m k : Nat} (h : m ≤ k) : (f.units m : ℚ) ≤ f.units k := by
  exact_mod_cast f.strictMono_units.monotone h

@[simp] theorem units_zero (f : Format) : f.units 0 = 0 := by
  simp [units]

theorem units_one (f : Format) : f.units 1 = 1 := by
  have hpos := f.hiddenBit_pos
  have h : f.units (0 * f.hiddenBit + 1) = 1 * 2 ^ 0 := units_significand (by omega) (Or.inl rfl)
  simpa using h

/-! ## Values -/

/-- The number that a finite magnitude stands for. The fraction comes after the point; before it
stands the hidden bit, unless the exponent field is zero. -/
def value (f : Format) (m : Nat) : ℚ :=
  let field := m / f.hiddenBit
  let fraction : ℚ := (m % f.hiddenBit : Nat) / f.hiddenBit
  if field = 0 then fraction * 2 ^ (1 - f.bias) else (1 + fraction) * 2 ^ (field - f.bias)

theorem IsInterchange.unitExponent_eq (hf : f.IsInterchange) :
    (f.unitExponent : Int) = f.bias - 1 + (f.precision - 1) := by
  have hprecision := hf.two_le_precision
  have hexponent := hf.two_le_maxExponent
  unfold unitExponent bias
  omega

/-- The value of a magnitude is its number of units. -/
theorem IsInterchange.value_eq_units (hf : f.IsInterchange) (m : Nat) :
    f.value m = f.units m / 2 ^ f.unitExponent := by
  have hprecision := hf.two_le_precision
  have hunit : (2 : ℚ) ^ f.unitExponent = 2 ^ (f.bias - 1) * f.hiddenBit := by
    have hexponent : f.bias - 1 + (f.precision - 1 : Nat) = f.unitExponent := by
      rw [hf.unitExponent_eq]
      omega
    rw [hiddenBit_eq, Nat.cast_pow, Nat.cast_ofNat, zpow_mul_pow (by norm_num) hexponent,
      zpow_natCast]
  have hbit : (f.hiddenBit : ℚ) ≠ 0 := by exact_mod_cast f.hiddenBit_pos.ne'
  have hpow : (2 : ℚ) ^ (f.bias - 1) ≠ 0 := by positivity
  rw [hunit]
  unfold value units
  dsimp only
  split
  · have hinv : (2 : ℚ) ^ (1 - f.bias) = (2 ^ (f.bias - 1))⁻¹ := by
      rw [← zpow_neg]
      congr 1
      omega
    rw [hinv]
    field_simp
  · rename_i hfield
    obtain ⟨n, hn⟩ := Nat.exists_eq_succ_of_ne_zero hfield
    have hscale : (2 : ℚ) ^ ((n.succ : Int) - f.bias) = 2 ^ n * (2 ^ (f.bias - 1))⁻¹ := by
      rw [← zpow_neg, mul_comm, zpow_mul_pow (by norm_num)]
      omega
    rw [hn, hscale]
    push_cast [Nat.pow_eq, Nat.succ_sub_one]
    field_simp

theorem IsInterchange.strictMono_value (hf : f.IsInterchange) : StrictMono f.value := by
  intro m k hmk
  rw [hf.value_eq_units, hf.value_eq_units]
  exact div_lt_div_of_pos_right (units_lt_units hmk) (by positivity)

/-! ## Signs and NaNs -/

theorem IsInterchange.signBit_eq (hf : f.IsInterchange) :
    f.signBit = f.hiddenBit * 2 ^ f.exponentBits := by
  have hprecision := hf.two_le_precision
  rw [hiddenBit_eq, ← Nat.pow_add]
  show 2 ^ (f.precision + f.exponentBits - 1) = _
  congr 1
  omega

/-- Between infinity and the sign bit there are as many magnitudes as fractions. -/
theorem IsInterchange.infinity_add (hf : f.IsInterchange) :
    f.infinity + f.hiddenBit = f.signBit := by
  have hexponent := hf.two_le_maxExponent
  rw [hf.infinity_eq, hf.signBit_eq, hf.two_pow_exponentBits, ← Nat.succ_mul, Nat.mul_comm]
  congr 1
  omega

theorem IsInterchange.infinity_lt_signBit (hf : f.IsInterchange) : f.infinity < f.signBit := by
  have hpos := f.hiddenBit_pos
  have hsum := hf.infinity_add
  omega

/-- A NaN has the exponent field of infinity and a fraction that is not zero. -/
structure IsNaN (f : Format) (bits : Nat) : Prop where
  field : bits / f.hiddenBit % 2 ^ f.exponentBits = 2 ^ f.exponentBits - 1
  fraction : bits % f.hiddenBit ≠ 0

/-- The magnitudes of NaNs are those after infinity. -/
theorem IsInterchange.isNaN_iff (hf : f.IsInterchange) {bits : Nat} :
    f.IsNaN bits ↔ f.infinity < f.magnitude bits := by
  have hfields : 0 < 2 ^ f.exponentBits := Nat.two_pow_pos _
  have hinfinity : f.infinity = f.hiddenBit * (2 ^ f.exponentBits - 1) := Nat.mul_comm _ _
  have hfraction := Nat.mod_lt bits f.hiddenBit_pos
  have hfield := Nat.mod_lt (bits / f.hiddenBit) hfields
  rw [magnitude, hf.signBit_eq, Nat.mod_mul, hinfinity]
  constructor
  · rintro ⟨hlast, hne⟩
    rw [hlast]
    omega
  · intro hlt
    have hlast : bits / f.hiddenBit % 2 ^ f.exponentBits = 2 ^ f.exponentBits - 1 := by
      by_contra hne
      have hle := Nat.mul_le_mul_left f.hiddenBit
        (by omega : bits / f.hiddenBit % 2 ^ f.exponentBits + 1 ≤ 2 ^ f.exponentBits - 1)
      rw [Nat.mul_succ] at hle
      omega
    rw [hlast] at hlt
    exact ⟨hlast, by omega⟩

theorem signBit_pos (f : Format) : 0 < f.signBit := Nat.two_pow_pos _

/-- A pattern is its sign bit and its magnitude. -/
theorem IsInterchange.two_pow_width (hf : f.IsInterchange) : 2 ^ f.width = 2 * f.signBit := by
  have hprecision := hf.two_le_precision
  show 2 ^ f.width = 2 * 2 ^ (f.width - 1)
  rw [← Nat.pow_succ']
  congr 1
  unfold width
  omega

theorem isNegative_withSign {m : Nat} (negative : Bool) (hm : m < f.signBit) :
    f.isNegative (f.withSign negative m) = negative := by
  have hpos := f.signBit_pos
  unfold isNegative withSign
  cases negative with
  | false => simp [Nat.div_eq_of_lt hm]
  | true => simp [Nat.add_div_left _ hpos, Nat.div_eq_of_lt hm]

theorem magnitude_withSign {m : Nat} (negative : Bool) (hm : m < f.signBit) :
    f.magnitude (f.withSign negative m) = m := by
  unfold magnitude withSign
  cases negative with
  | false => exact Nat.mod_eq_of_lt hm
  | true => simp [Nat.mod_eq_of_lt hm]

theorem withSign_lt {m : Nat} (negative : Bool) (hm : m < f.signBit) :
    f.withSign negative m < 2 * f.signBit := by
  unfold withSign
  cases negative with
  | false =>
    simp only [Bool.false_eq_true, if_false]
    omega
  | true =>
    simp only [if_true]
    omega

theorem withSign_magnitude {bits : Nat} (hbits : bits < 2 * f.signBit) :
    f.withSign (f.isNegative bits) (f.magnitude bits) = bits := by
  have hpos := f.signBit_pos
  unfold withSign isNegative magnitude
  rcases Nat.lt_or_ge bits f.signBit with hlt | hge
  · simp [Nat.div_eq_of_lt hlt, Nat.mod_eq_of_lt hlt]
  · obtain ⟨m, rfl⟩ := Nat.exists_eq_add_of_le hge
    have hm : m < f.signBit := by omega
    simp [Nat.add_div_left _ hpos, Nat.div_eq_of_lt hm, Nat.mod_eq_of_lt hm]

end Format

end Binary

theorem FloatPrecision.isInterchange_format (p : FloatPrecision) : p.format.IsInterchange := by
  cases p <;> exact ⟨by decide, by decide⟩

end TargetAbi
