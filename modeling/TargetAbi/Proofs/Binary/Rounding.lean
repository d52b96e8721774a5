import Mathlib.Algebra.Order.Ring.Abs
import Mathlib.Tactic.Linarith
import TargetAbi.Binary.Rounding
import TargetAbi.Binary.Shortest
import TargetAbi.Proofs.Binary.Value

/-!
# Rounding to the nearest value

`Format.Rounds q m` says that the magnitude `m` is the number `q` rounded to the nearest value of
the format, a tie going to the even magnitude and numbers from `overflow` on to infinity. There is
exactly one such magnitude (`Rounds.unique`), and `ofQuotient` finds it for a quotient
(`rounds_ofQuotient`).

The numbers that are rounded to a finite magnitude fill its reading interval
(`rounds_of_contains`). On the grid of a significand with its shift this interval is half a step to
either side, except below a power of two, where the steps are finer (`contains_significand`).
-/

set_option autoImplicit false

namespace TargetAbi.Binary

/-! ## Distances -/

/-- The smaller one of two numbers is nearer on its side of their middle. -/
theorem abs_sub_le_abs_sub_iff_of_lt {a b x : ℚ} (h : a < b) :
    |a - x| ≤ |b - x| ↔ 2 * x ≤ a + b := by
  rw [← sq_le_sq]
  constructor
  · intro hsq
    nlinarith
  · intro hx
    nlinarith

/-- The larger one of two numbers is nearer on its side of their middle. -/
theorem abs_sub_le_abs_sub_iff_of_gt {a b x : ℚ} (h : b < a) :
    |a - x| ≤ |b - x| ↔ b + a ≤ 2 * x := by
  rw [← sq_le_sq]
  constructor
  · intro hsq
    nlinarith
  · intro hx
    nlinarith

/-! ## Multiples of a step -/

/-- `r` steps are the nearest ones to `x`: at most half a step away, and less than that if `r` is
odd. -/
structure IsNearestMultiple (step x : ℚ) (r : Nat) : Prop where
  upper : 2 * x ≤ (2 * r + 1) * step
  lower : 2 * r * step ≤ 2 * x + step
  even_or_open : r % 2 = 0 ∨ 2 * x < (2 * r + 1) * step ∧ 2 * r * step < 2 * x + step

theorem isNearestMultiple_roundHalfEven (num : Nat) {den : Nat} (hden : 0 < den) :
    IsNearestMultiple den num (roundHalfEven num den) := by
  have hsum : (num / den : Nat) * den + (num % den : Nat) = (num : ℚ) := by
    exact_mod_cast Nat.div_add_mod' num den
  have hmod : ((num % den : Nat) : ℚ) < den := by exact_mod_cast Nat.mod_lt num hden
  have hnonneg : (0 : ℚ) ≤ (num % den : Nat) := Nat.cast_nonneg _
  have hsucc : ((num / den + 1 : Nat) * den : ℚ) = (num / den : Nat) * den + den := by
    rw [Nat.cast_succ, add_one_mul]
  unfold roundHalfEven
  dsimp only
  split_ifs with hdown hup
  · have hlt : (2 * (num % den : Nat) : ℚ) < den := by exact_mod_cast hdown
    exact ⟨by linarith, by linarith, Or.inr ⟨by linarith, by linarith⟩⟩
  · have hlt : (den : ℚ) < 2 * (num % den : Nat) := by exact_mod_cast hup
    exact ⟨by linarith, by linarith, Or.inr ⟨by linarith, by linarith⟩⟩
  · -- a tie
    have heq : (2 * (num % den : Nat) : ℚ) = den := by
      exact_mod_cast Nat.le_antisymm (Nat.not_lt.1 hup) (Nat.not_lt.1 hdown)
    rcases Nat.mod_two_eq_zero_or_one (num / den) with hparity | hparity
    · rw [hparity, Nat.add_zero]
      exact ⟨by linarith, by linarith, Or.inl hparity⟩
    · rw [hparity]
      exact ⟨by linarith, by linarith, Or.inl (by omega)⟩

namespace IsNearestMultiple

variable {step x : ℚ} {r : Nat}

/-- A common factor of the step and the number does not matter. -/
theorem div {d : ℚ} (hd : 0 < d) (h : IsNearestMultiple (d * step) x r) :
    IsNearestMultiple step (x / d) r := by
  have hx : x = d * (x / d) := (mul_div_cancel₀ x hd.ne').symm
  obtain ⟨hupper, hlower, hends⟩ := h
  rw [hx] at hupper hlower hends
  refine ⟨?_, ?_, hends.imp_right fun hopen => ⟨?_, ?_⟩⟩
  · exact le_of_mul_le_mul_left (by linarith) hd
  · exact le_of_mul_le_mul_left (by linarith) hd
  · exact lt_of_mul_lt_mul_left (by linarith [hopen.1]) hd.le
  · exact lt_of_mul_lt_mul_left (by linarith [hopen.2]) hd.le

theorem le_of_lt {n : Nat} (hstep : 0 < step) (h : IsNearestMultiple step x r)
    (hx : x < n * step) : r ≤ n := by
  have hlt : (2 * r * step : ℚ) < (2 * n + 1) * step := by linarith [h.lower]
  have hr : 2 * r < 2 * n + 1 := by exact_mod_cast lt_of_mul_lt_mul_right hlt hstep.le
  omega

theorem le_of_le {n : Nat} (hstep : 0 < step) (h : IsNearestMultiple step x r)
    (hx : n * step ≤ x) : n ≤ r := by
  have hle : (2 * n * step : ℚ) ≤ (2 * r + 1) * step := by linarith [h.upper]
  have hr : 2 * n ≤ 2 * r + 1 := by exact_mod_cast le_of_mul_le_mul_right hle hstep
  omega

end IsNearestMultiple

/-- The numbers of half units that an interval contains. -/
def ReadingInterval.Contains (i : ReadingInterval) (x : ℚ) : Prop :=
  if i.closed then i.lower ≤ x ∧ x ≤ i.upper else i.lower < x ∧ x < i.upper

namespace Format

variable {f : Format} {m : Nat} {q : ℚ}

/-! ## The specification -/

/-- The least number that is rounded to infinity. It lies half-way between the largest finite value
and the power of two after it. -/
def overflow (f : Format) : ℚ := (2 - 2 ^ (-f.precision : Int)) * 2 ^ f.bias

/-- The finite magnitude `m` has the value nearest to `q`, and is even if there is another one as
near. The last bit of a magnitude is that of its significand. -/
structure IsNearest (f : Format) (q : ℚ) (m : Nat) : Prop where
  lt_infinity : m < f.infinity
  nearest : ∀ k < f.infinity, |f.value m - q| ≤ |f.value k - q|
  even_of_tie : ∀ k < f.infinity, k ≠ m → |f.value m - q| = |f.value k - q| → m % 2 = 0

/-- `m` is the magnitude to which the number `q` is rounded: infinity from `overflow` on, and
otherwise the nearest finite one. -/
inductive Rounds (f : Format) (q : ℚ) : Nat → Prop
  | finite {m : Nat} : q < f.overflow → f.IsNearest q m → Rounds f q m
  | infinite : f.overflow ≤ q → Rounds f q f.infinity

theorem Rounds.le_infinity (h : f.Rounds q m) : m ≤ f.infinity := by
  cases h with
  | finite _ hm => exact hm.lt_infinity.le
  | infinite => exact le_refl _

/-- Two magnitudes are not both nearest to a number: between two even ones there is an odd one,
which would be nearer. -/
theorem IsNearest.not_lt (hf : f.IsInterchange) {k : Nat} (hm : f.IsNearest q m)
    (hk : f.IsNearest q k) : ¬ m < k := by
  intro hmk
  have hvalues := hf.strictMono_value hmk
  have heq : |f.value m - q| = |f.value k - q| :=
    le_antisymm (hm.nearest k hk.lt_infinity) (hk.nearest m hm.lt_infinity)
  have hmiddle : f.value m + f.value k = 2 * q := by
    apply le_antisymm
    · exact (abs_sub_le_abs_sub_iff_of_gt hvalues).1 heq.ge
    · exact (abs_sub_le_abs_sub_iff_of_lt hvalues).1 heq.le
  -- both are even, so the magnitude after the smaller one is not the larger one
  have hmeven := hm.even_of_tie k hk.lt_infinity hmk.ne' heq
  have hkeven := hk.even_of_tie m hm.lt_infinity hmk.ne heq.symm
  have hnext : m + 1 < k := by omega
  have hcloser := (abs_sub_le_abs_sub_iff_of_gt (hf.strictMono_value hnext)).1
    (hk.nearest (m + 1) (hnext.trans hk.lt_infinity))
  have hstep := hf.strictMono_value (Nat.lt_succ_self m)
  linarith

/-- A number is rounded to one magnitude. -/
theorem Rounds.unique (hf : f.IsInterchange) {k : Nat} (hm : f.Rounds q m) (hk : f.Rounds q k) :
    m = k := by
  cases hm with
  | finite hmq hm =>
    cases hk with
    | finite _ hk =>
      exact Nat.le_antisymm (Nat.not_lt.1 (hk.not_lt hf hm)) (Nat.not_lt.1 (hm.not_lt hf hk))
    | infinite hkq => exact absurd hkq (not_le.2 hmq)
  | infinite hmq =>
    cases hk with
    | finite hkq => exact absurd hmq (not_le.2 hkq)
    | infinite => rfl

/-! ## Reading intervals -/

theorem contains_readingInterval_iff {x : ℚ} :
    (f.readingInterval m).Contains x ↔
      (f.units (m - 1) + f.units m : ℚ) ≤ x ∧ x ≤ f.units m + f.units (m + 1) ∧
        (m % 2 = 0 ∨ (f.units (m - 1) + f.units m : ℚ) < x ∧ x < f.units m + f.units (m + 1)) := by
  unfold ReadingInterval.Contains readingInterval
  push_cast
  by_cases heven : m % 2 = 0
  · simp [heven]
  · simp only [heven, beq_iff_eq, if_false, false_or]
    exact ⟨fun h => ⟨h.1.le, h.2.le, h⟩, fun h => h.2.2⟩

/-- A number in the reading interval of a magnitude is nearest to its value. -/
theorem nearest_of_contains {x : ℚ} (h : (f.readingInterval m).Contains (2 * x)) {k : Nat}
    (hk : k ≠ m) :
    |f.units m - x| ≤ |f.units k - x| ∧
      (|(f.units m : ℚ) - x| = |f.units k - x| → m % 2 = 0) := by
  obtain ⟨hlower, hupper, hends⟩ := contains_readingInterval_iff.1 h
  -- a tie is at an end of the interval, where only an even magnitude reads back
  rcases Nat.lt_or_gt_of_ne hk with hlt | hgt
  · have hvalues : (f.units k : ℚ) < f.units m := units_lt_units hlt
    have hbelow : (f.units k : ℚ) ≤ f.units (m - 1) := units_le_units (Nat.le_sub_one_of_lt hlt)
    refine ⟨(abs_sub_le_abs_sub_iff_of_gt hvalues).2 (by linarith), fun heq => ?_⟩
    have htie := (abs_sub_le_abs_sub_iff_of_lt hvalues).1 heq.ge
    exact hends.resolve_right fun hopen => by linarith [hopen.1]
  · have hvalues : (f.units m : ℚ) < f.units k := units_lt_units hgt
    have habove : (f.units (m + 1) : ℚ) ≤ f.units k := units_le_units (Nat.succ_le_of_lt hgt)
    refine ⟨(abs_sub_le_abs_sub_iff_of_lt hvalues).2 (by linarith), fun heq => ?_⟩
    have htie := (abs_sub_le_abs_sub_iff_of_gt hvalues).1 heq.ge
    exact hends.resolve_right fun hopen => by linarith [hopen.2]

/-- The number of units of `overflow` lies half-way between those of the two last magnitudes. -/
theorem two_mul_overflow (hf : f.IsInterchange) :
    2 * (f.overflow * 2 ^ f.unitExponent) = f.units (f.infinity - 1) + f.units f.infinity := by
  have hexponent := hf.two_le_maxExponent
  have hpos := f.hiddenBit_pos
  have hinfinity : (f.units f.infinity : ℚ) =
      2 * f.hiddenBit * 2 ^ (2 * f.maxExponent - 3) := by
    exact_mod_cast hf.units_infinity
  have hlast : (f.units (f.infinity - 1) : ℚ) =
      (2 * f.hiddenBit - 1) * 2 ^ (2 * f.maxExponent - 3) := by
    rw [hf.units_infinity_pred]
    push_cast [Nat.cast_sub (by omega : 1 ≤ 2 * f.hiddenBit)]
    ring
  have hprecision : (2 : ℚ) ^ f.precision = 2 * f.hiddenBit := by
    exact_mod_cast hf.two_pow_precision
  have hinverse : (2 : ℚ) ^ (-f.precision : Int) * 2 ^ f.precision = 1 := by
    rw [zpow_mul_pow (by norm_num) (neg_add_cancel _), zpow_zero]
  have hscale : (2 : ℚ) ^ f.bias * 2 ^ f.unitExponent * 2 =
      2 ^ (2 * f.maxExponent - 3) * 2 ^ f.precision := by
    have hunit := hf.unitExponent_eq
    have hbias : f.bias = f.maxExponent - 1 := rfl
    rw [zpow_mul_pow (by norm_num) rfl, ← zpow_add_one₀ (by norm_num), ← pow_add, ← zpow_natCast]
    congr 1
    omega
  rw [hinfinity, hlast, overflow]
  calc 2 * ((2 - (2 : ℚ) ^ (-f.precision : Int)) * 2 ^ f.bias * 2 ^ f.unitExponent)
      = (2 - (2 : ℚ) ^ (-f.precision : Int)) * (2 ^ f.bias * 2 ^ f.unitExponent * 2) := by ring
    _ = 2 ^ (2 * f.maxExponent - 3) *
        (2 * 2 ^ f.precision - (2 : ℚ) ^ (-f.precision : Int) * 2 ^ f.precision) := by
      rw [hscale]
      ring
    _ = (2 * f.hiddenBit - 1) * 2 ^ (2 * f.maxExponent - 3) +
        2 * f.hiddenBit * 2 ^ (2 * f.maxExponent - 3) := by
      rw [hinverse, hprecision]
      ring

/-- A number in the reading interval of a finite magnitude is not too large. -/
theorem lt_overflow_of_contains (hf : f.IsInterchange) (hm : m < f.infinity)
    (h : (f.readingInterval m).Contains (2 * (q * 2 ^ f.unitExponent))) : q < f.overflow := by
  obtain ⟨-, hupper, hends⟩ := contains_readingInterval_iff.1 h
  have hmiddle := two_mul_overflow hf
  have hinfinity := hf.infinity_even
  have hunit : (0 : ℚ) < 2 ^ f.unitExponent := by positivity
  suffices hlt : q * 2 ^ f.unitExponent < f.overflow * 2 ^ f.unitExponent from
    lt_of_mul_lt_mul_right hlt hunit.le
  rcases Nat.lt_or_eq_of_le (Nat.succ_le_of_lt hm) with hlt | heq
  · have hfirst : (f.units m : ℚ) < f.units (f.infinity - 1) := units_lt_units (by omega)
    have hsecond : (f.units (m + 1) : ℚ) < f.units f.infinity := units_lt_units hlt
    linarith
  · -- the last finite magnitude is odd, so its interval is open
    have hopen := hends.resolve_left (by omega)
    have hpredecessor : f.infinity - 1 = m := by omega
    rw [hpredecessor, ← heq] at hmiddle
    linarith [hopen.2]

/-- Numbers in the reading interval of a finite magnitude are rounded to it. -/
theorem rounds_of_contains (hf : f.IsInterchange) (hm : m < f.infinity)
    (h : (f.readingInterval m).Contains (2 * (q * 2 ^ f.unitExponent))) : f.Rounds q m := by
  have hunit : (0 : ℚ) < 2 ^ f.unitExponent := by positivity
  have hdistance (k : Nat) :
      |f.value k - q| = |f.units k - q * 2 ^ f.unitExponent| / 2 ^ f.unitExponent := by
    rw [hf.value_eq_units, ← abs_of_pos hunit, ← abs_div, abs_of_pos hunit]
    congr 1
    field_simp
  refine .finite (lt_overflow_of_contains hf hm h) ⟨hm, ?_, ?_⟩
  · intro k _
    rw [hdistance, hdistance]
    rcases eq_or_ne k m with rfl | hk
    · exact le_refl _
    · exact div_le_div_of_nonneg_right (nearest_of_contains h hk).1 hunit.le
  · intro k _ hk heq
    rw [hdistance, hdistance, div_left_inj' hunit.ne'] at heq
    exact (nearest_of_contains h hk).2 heq

/-! ## Rounding a quotient -/

/-- After a significand with its shift the next magnitude is at least one step away. -/
theorem le_units_significand_succ {shift r : Nat} (hr : r ≤ 2 * f.hiddenBit)
    (hnormal : shift = 0 ∨ f.hiddenBit ≤ r) :
    (r + 1) * 2 ^ shift ≤ f.units (shift * f.hiddenBit + r + 1) := by
  rcases Nat.lt_or_eq_of_le hr with hlt | heq
  · rw [Nat.add_assoc, units_significand hlt (hnormal.imp_right Nat.le_succ_of_le)]
  · -- the significand is carried, and the next step is twice as long
    have hsum : shift * f.hiddenBit + r + 1 = (shift + 1) * f.hiddenBit + (f.hiddenBit + 1) := by
      rw [heq]
      ring
    have hbit := f.hiddenBit_pos
    rw [hsum, units_significand (by omega) (Or.inr (by omega)), heq, Nat.pow_succ',
      ← Nat.mul_assoc]
    exact Nat.mul_le_mul_right _ (by omega)

/-- Before a significand with its shift the last magnitude is one step away, except right above a
power of two. -/
theorem units_significand_pred {shift r : Nat} (hr : r ≤ 2 * f.hiddenBit) (hpos : 0 < r)
    (hnormal : shift = 0 ∨ f.hiddenBit < r) :
    f.units (shift * f.hiddenBit + r - 1) = (r - 1) * 2 ^ shift := by
  rw [Nat.add_sub_assoc hpos, units_significand (by omega) (hnormal.imp_right Nat.le_sub_one_of_lt)]

/-- A number is in the reading interval of a significand with its shift if the significand is
nearest to it on the grid of the shift. Right above a power of two the interval is shorter below,
and such a number is known not to lie below the power. -/
theorem contains_significand (hf : f.IsInterchange) {shift r : Nat} {x : ℚ}
    (hr : r ≤ 2 * f.hiddenBit) (hnormal : shift = 0 ∨ f.hiddenBit ≤ r) (hnonneg : 0 ≤ x)
    (hbinade : shift = 0 ∨ (f.hiddenBit * 2 ^ shift : ℚ) ≤ x)
    (hnearest : IsNearestMultiple (2 ^ shift) x r) :
    (f.readingInterval (shift * f.hiddenBit + r)).Contains (2 * x) := by
  obtain ⟨hupper, hlower, hends⟩ := hnearest
  have hparity : (shift * f.hiddenBit + r) % 2 = r % 2 := by
    rw [Nat.add_mod, Nat.mul_mod, hf.hiddenBit_even, Nat.mul_zero, Nat.zero_mod, Nat.zero_add,
      Nat.mod_mod]
  have hunits : (f.units (shift * f.hiddenBit + r) : ℚ) = r * 2 ^ shift := by
    exact_mod_cast units_significand hr hnormal
  have hnext : (r + 1 : ℚ) * 2 ^ shift ≤ f.units (shift * f.hiddenBit + r + 1) := by
    exact_mod_cast le_units_significand_succ hr hnormal
  rw [contains_readingInterval_iff, hparity, hunits]
  by_cases hzero : r = 0 ∧ shift = 0
  · -- zero has no magnitude before it
    obtain ⟨rfl, rfl⟩ := hzero
    simp only [Nat.zero_mul, Nat.zero_add, Nat.zero_sub, units_zero, units_one] at hnext hupper ⊢
    refine ⟨by simpa using hnonneg, ?_, Or.inl trivial⟩
    push_cast at hupper ⊢
    linarith
  · by_cases hedge : shift ≠ 0 ∧ r = f.hiddenBit
    · -- right above a power of two
      obtain ⟨hshift, rfl⟩ := hedge
      have hbelow : (f.units (shift * f.hiddenBit + f.hiddenBit - 1) : ℚ) <
          f.hiddenBit * 2 ^ shift := by
        have hbit := f.hiddenBit_pos
        rw [← hunits]
        exact units_lt_units (by omega)
      have hx := hbinade.resolve_left hshift
      exact ⟨by linarith, by linarith, Or.inl hf.hiddenBit_even⟩
    · -- the steps to both sides are equally long
      have hpos : 0 < r := by
        rcases hnormal with rfl | hge
        · omega
        · exact Nat.lt_of_lt_of_le f.hiddenBit_pos hge
      have hprevious : (f.units (shift * f.hiddenBit + r - 1) : ℚ) = (r - 1) * 2 ^ shift := by
        rw [units_significand_pred hr hpos (by omega)]
        push_cast [Nat.cast_sub hpos]
        ring
      rw [hprevious]
      refine ⟨by linarith, by linarith, hends.imp_right fun hopen => ?_⟩
      exact ⟨by linarith [hopen.2], by linarith [hopen.1]⟩

/-- The shift that a number of units needs leaves as many bits as the precision has. -/
theorem lt_of_shift (hf : f.IsInterchange) {count shift : Nat}
    (hshift : count.log2 + 1 - f.precision = shift) :
    count < 2 * f.hiddenBit * 2 ^ shift ∧ (shift = 0 ∨ f.hiddenBit * 2 ^ shift ≤ count) := by
  have hprecision := hf.two_le_precision
  have hlt : count < 2 ^ (count.log2 + 1) := Nat.lt_log2_self
  constructor
  · calc count < 2 ^ (count.log2 + 1) := hlt
      _ ≤ 2 ^ (f.precision + shift) := Nat.pow_le_pow_right (by decide) (by omega)
      _ = 2 * f.hiddenBit * 2 ^ shift := by rw [Nat.pow_add, hf.two_pow_precision]
  · rcases Nat.eq_zero_or_pos shift with hzero | hpos
    · exact Or.inl hzero
    · right
      have hne : count ≠ 0 := by
        rintro rfl
        simp at hshift
        omega
      calc f.hiddenBit * 2 ^ shift = 2 ^ count.log2 := by
            rw [hiddenBit_eq, ← Nat.pow_add]
            congr 1
            omega
        _ ≤ count := Nat.log2_self_le hne

/-- The magnitude nearest to a quotient, if exponents had no end. -/
def unbounded (f : Format) (num den : Nat) : Nat :=
  let scaled := num * 2 ^ f.unitExponent
  let shift := (scaled / den).log2 + 1 - f.precision
  shift * f.hiddenBit + roundHalfEven scaled (den * 2 ^ shift)

theorem ofQuotient_eq_min (f : Format) (num den : Nat) :
    f.ofQuotient num den = min f.infinity (f.unbounded num den) := rfl

/-- The significand that is found is nearest on the grid around the quotient, and the shift of this
grid is the one that the quotient needs. -/
theorem contains_unbounded (hf : f.IsInterchange) (num : Nat) {den : Nat} (hden : 0 < den) :
    (f.readingInterval (f.unbounded num den)).Contains
      (2 * ((num / den : ℚ) * 2 ^ f.unitExponent)) := by
  unfold unbounded
  dsimp only
  generalize hscaled : num * 2 ^ f.unitExponent = scaled
  generalize hshift : (scaled / den).log2 + 1 - f.precision = shift
  obtain ⟨hcount, hbinade⟩ := lt_of_shift hf hshift
  have hdenQ : (0 : ℚ) < den := by exact_mod_cast hden
  have hstep : (0 : ℚ) < 2 ^ shift := by positivity
  have hx : (num / den : ℚ) * 2 ^ f.unitExponent = scaled / den := by
    rw [← hscaled]
    push_cast
    ring
  have hnearest : IsNearestMultiple (2 ^ shift) (scaled / den)
      (roundHalfEven scaled (den * 2 ^ shift)) := by
    have h := isNearestMultiple_roundHalfEven scaled (Nat.mul_pos hden (Nat.two_pow_pos shift))
    push_cast at h
    exact h.div hdenQ
  have hbelow : (scaled / den : ℚ) < (2 * f.hiddenBit : Nat) * 2 ^ shift := by
    rw [div_lt_iff₀ hdenQ]
    have hlt : scaled < 2 * f.hiddenBit * 2 ^ shift * den := by
      rwa [← Nat.div_lt_iff_lt_mul hden]
    exact_mod_cast hlt
  have habove : shift = 0 ∨ (f.hiddenBit * 2 ^ shift : ℚ) ≤ scaled / den := by
    refine hbinade.imp_right fun hle => ?_
    rw [le_div_iff₀ hdenQ]
    exact_mod_cast (Nat.le_div_iff_mul_le hden).1 hle
  rw [hx]
  exact contains_significand hf (hnearest.le_of_lt hstep hbelow)
    (habove.imp_right (hnearest.le_of_le hstep)) (by positivity) habove hnearest

/-- A quotient is rounded to the nearest value. -/
theorem rounds_ofQuotient (hf : f.IsInterchange) (num : Nat) {den : Nat} (hden : 0 < den) :
    f.Rounds (num / den) (f.ofQuotient num den) := by
  have hcontains := contains_unbounded hf num hden
  rw [ofQuotient_eq_min]
  rcases Nat.lt_or_ge (f.unbounded num den) f.infinity with hlt | hge
  · rw [Nat.min_eq_right hlt.le]
    exact rounds_of_contains hf hlt hcontains
  · rw [Nat.min_eq_left hge]
    apply Rounds.infinite
    obtain ⟨hlower, -⟩ := contains_readingInterval_iff.1 hcontains
    have hmiddle := two_mul_overflow hf
    have hfirst : (f.units (f.infinity - 1) : ℚ) ≤ f.units (f.unbounded num den - 1) :=
      units_le_units (Nat.sub_le_sub_right hge 1)
    have hsecond : (f.units f.infinity : ℚ) ≤ f.units (f.unbounded num den) := units_le_units hge
    have hunit : (0 : ℚ) < 2 ^ f.unitExponent := by positivity
    exact le_of_mul_le_mul_right (by linarith) hunit

end Format

end TargetAbi.Binary
