import TargetAbi.Proofs.Binary.Rounding
import TargetAbi.Proofs.Numeral

/-!
# Shortest decimals read back

The search of `shortest` tries decimal grids down to the spacing `10 ^ (-unitExponent)`. A hit on
any grid lies in the reading interval of the magnitude (`contains_of_onGrid?_eq_some`), and the
finest grid always has one, as every value is on it (`isSome_onGrid?_finest`). So the search ends
with a decimal that is rounded to the magnitude again (`rounds_shortest`).
-/

set_option autoImplicit false

namespace TargetAbi.Binary

open Numeral

/-- The number that a decimal stands for. -/
def Decimal.value (d : Decimal) : ℚ := d.digits * 10 ^ d.exponent

namespace Format

variable {f : Format} {tie : TieRule} {i : ReadingInterval} {scale m : Nat} {exponent : Int}
  {d : Decimal}

/-! ## One grid -/

/-- The point `digits` of a grid lies in the interval, as it is checked without fractions. -/
def gridContains (i : ReadingInterval) (scale : Nat) (exponent : Int) (digits : Nat) : Bool :=
  let fine := 10 ^ (-exponent).toNat
  let p := digits * (scale * 10 ^ exponent.toNat)
  if i.closed then i.lower * fine ≤ p && p ≤ i.upper * fine
  else i.lower * fine < p && p < i.upper * fine

/-- A power of ten is a quotient of a natural number by another one. -/
theorem ten_zpow_mul_pow (exponent : Int) :
    (10 : ℚ) ^ exponent * 10 ^ (-exponent).toNat = 10 ^ exponent.toNat := by
  rw [← zpow_natCast (10 : ℚ) exponent.toNat]
  exact zpow_mul_pow (by norm_num) (by omega)

/-- The check without fractions is exact. -/
theorem gridContains_iff {digits : Nat} :
    gridContains i scale exponent digits = true ↔
      i.Contains (Decimal.value ⟨digits, exponent⟩ * scale) := by
  have hfine : (0 : ℚ) < 10 ^ (-exponent).toNat := by positivity
  have hpoint : Decimal.value ⟨digits, exponent⟩ * scale * 10 ^ (-exponent).toNat =
      ((digits * (scale * 10 ^ exponent.toNat) : Nat) : ℚ) := by
    push_cast
    rw [← ten_zpow_mul_pow exponent, Decimal.value]
    ring
  have hle (n : Nat) : n * 10 ^ (-exponent).toNat ≤ digits * (scale * 10 ^ exponent.toNat) ↔
      (n : ℚ) ≤ Decimal.value ⟨digits, exponent⟩ * scale := by
    rw [← mul_le_mul_iff_of_pos_right hfine, hpoint]
    exact_mod_cast Iff.rfl
  have hge (n : Nat) : digits * (scale * 10 ^ exponent.toNat) ≤ n * 10 ^ (-exponent).toNat ↔
      Decimal.value ⟨digits, exponent⟩ * scale ≤ (n : ℚ) := by
    rw [← mul_le_mul_iff_of_pos_right hfine, hpoint]
    exact_mod_cast Iff.rfl
  unfold gridContains ReadingInterval.Contains
  dsimp only
  cases i.closed with
  | true => simp [hle, hge]
  | false => simp [← not_le, hle, hge]

/-- On a grid the point below the value of the interval is tried and the one after it. The first one
is taken if it is preferred or the only hit. -/
theorem exists_onGrid?_eq (tie : TieRule) (i : ReadingInterval) (scale : Nat) (exponent : Int) :
    ∃ prefersBelow : Bool, onGrid? tie i scale exponent =
      let below := i.value * 10 ^ (-exponent).toNat / (scale * 10 ^ exponent.toNat)
      let inside := gridContains i scale exponent
      if inside below && (prefersBelow || !inside (below + 1)) then some ⟨below, exponent⟩
      else if inside (below + 1) then some ⟨below + 1, exponent⟩
      else none :=
  ⟨_, rfl⟩

/-- A hit on a grid lies in the interval. -/
theorem contains_of_onGrid?_eq_some (h : onGrid? tie i scale exponent = some d) :
    i.Contains (d.value * scale) := by
  obtain ⟨prefersBelow, heq⟩ := exists_onGrid?_eq tie i scale exponent
  rw [heq] at h
  dsimp only at h
  split at h
  · rename_i hbelow
    cases h
    exact gridContains_iff.1 (Bool.and_eq_true_iff.1 hbelow).1
  · split at h
    · rename_i habove
      cases h
      exact gridContains_iff.1 habove
    · cases h

/-- A grid that the value of the interval is on has a hit. -/
theorem isSome_onGrid? {digits : Nat} (hscale : 0 < scale)
    (hvalue : i.value * 10 ^ (-exponent).toNat = digits * (scale * 10 ^ exponent.toNat))
    (hinside : gridContains i scale exponent digits = true) :
    (onGrid? tie i scale exponent).isSome = true := by
  have hstep : 0 < scale * 10 ^ exponent.toNat := Nat.mul_pos hscale (Nat.pow_pos (by decide))
  obtain ⟨prefersBelow, heq⟩ := exists_onGrid?_eq tie i scale exponent
  -- the point below the value is the value itself
  rw [heq, hvalue, Nat.mul_div_cancel _ hstep]
  dsimp only
  rw [hinside]
  cases prefersBelow with
  | true => rfl
  | false => cases gridContains i scale exponent (digits + 1) <;> rfl

/-! ## The search -/

/-- In half units, every value is on the finest decimal grid. -/
theorem readingInterval_value_mul (f : Format) (m : Nat) :
    (f.readingInterval m).value * 10 ^ f.unitExponent =
      f.units m * 5 ^ f.unitExponent * 2 ^ (f.unitExponent + 1) := by
  show 2 * f.units m * (2 * 5) ^ f.unitExponent = _
  rw [Nat.mul_pow, Nat.pow_succ]
  ring

/-- The value of a positive magnitude lies in its reading interval. -/
theorem contains_value (hm : m ≠ 0) : (f.readingInterval m).Contains (2 * f.units m) := by
  have hbelow : (f.units (m - 1) : ℚ) < f.units m := units_lt_units (by omega)
  have habove : (f.units m : ℚ) < f.units (m + 1) := units_lt_units (Nat.lt_succ_self m)
  rw [contains_readingInterval_iff]
  exact ⟨by linarith, by linarith, Or.inr ⟨by linarith, by linarith⟩⟩

/-- On the finest grid the search has a hit. -/
theorem isSome_onGrid?_finest (hm : m ≠ 0) :
    (onGrid? tie (f.readingInterval m) (2 ^ (f.unitExponent + 1)) (-f.unitExponent)).isSome =
      true := by
  have hfine : (- -(f.unitExponent : Int)).toNat = f.unitExponent := by omega
  have hstep : (-(f.unitExponent : Int)).toNat = 0 := by omega
  have hvalue := f.readingInterval_value_mul m
  have htens : (10 : ℚ) ^ (-f.unitExponent : Int) * 10 ^ f.unitExponent = 1 := by
    rw [zpow_mul_pow (by norm_num) (neg_add_cancel _), zpow_zero]
  have hcast : (2 * f.units m * 10 ^ f.unitExponent : ℚ) =
      f.units m * 5 ^ f.unitExponent * 2 ^ (f.unitExponent + 1) := by
    exact_mod_cast hvalue
  have hpoint : Decimal.value ⟨f.units m * 5 ^ f.unitExponent, -f.unitExponent⟩ *
      (2 ^ (f.unitExponent + 1) : Nat) = 2 * f.units m := by
    rw [Decimal.value]
    push_cast
    rw [mul_right_comm, ← hcast, mul_assoc, mul_comm (10 ^ _), htens, mul_one]
  have hinside : gridContains (f.readingInterval m) (2 ^ (f.unitExponent + 1)) (-f.unitExponent)
      (f.units m * 5 ^ f.unitExponent) = true := by
    rw [gridContains_iff, hpoint]
    exact contains_value hm
  refine isSome_onGrid? (Nat.two_pow_pos _) ?_ hinside
  rw [hfine, hstep, hvalue, Nat.pow_zero, Nat.mul_one]

/-- The search starts on a grid that is not finer than the finest one. -/
theorem neg_unitExponent_le_leadingExponent (hm : m ≠ 0) :
    -(f.unitExponent : Int) ≤
      leadingExponent (f.readingInterval m).value (2 ^ (f.unitExponent + 1)) := by
  have hunits : 0 < f.units m := by
    rw [← f.units_zero]
    exact f.strictMono_units (Nat.pos_of_ne_zero hm)
  have hvalue : (f.readingInterval m).value = 2 * f.units m := rfl
  rw [hvalue]
  unfold leadingExponent
  split
  · generalize 2 * f.units m / 2 ^ (f.unitExponent + 1) = q
    have hpos : 0 < (Nat.toDigits 10 q).length := Nat.length_toDigits_pos
    omega
  · rename_i hlt
    generalize hq : (2 ^ (f.unitExponent + 1) - 1) / (2 * f.units m) = q
    have hne : q ≠ 0 := by
      rw [← hq]
      exact (Nat.div_pos (by omega) (by omega)).ne'
    have hq_lt : q < 10 ^ f.unitExponent := by
      have hle : q < 2 ^ f.unitExponent := by
        rw [← hq, Nat.div_lt_iff_lt_mul (by omega), Nat.pow_succ]
        have : 2 ^ f.unitExponent * 2 ≤ 2 ^ f.unitExponent * (2 * f.units m) :=
          Nat.mul_le_mul_left _ (by omega)
        have hpow := Nat.two_pow_pos f.unitExponent
        omega
      exact lt_of_lt_of_le hle (Nat.pow_le_pow_left (by decide) _)
    have hlength := (Nat.pow_lt_pow_iff_right (by decide)).1
      (lt_of_le_of_lt (pow_length_toDigits_le hne) hq_lt)
    omega

/-- The search has a hit, and what it finds is in the reading interval. -/
theorem contains_shortest (f : Format) (tie : TieRule) (hm : m ≠ 0) :
    (f.readingInterval m).Contains
      ((f.shortest tie m).value * (2 ^ (f.unitExponent + 1) : Nat)) := by
  unfold shortest
  dsimp only
  generalize htop : leadingExponent (f.readingInterval m).value _ = top
  have hle : -(f.unitExponent : Int) ≤ top := by
    rw [← htop]
    exact neg_unitExponent_le_leadingExponent hm
  set search := (List.range (top + f.unitExponent).toNat.succ).findSome? _ with hsearch
  -- the last grid of the search is the finest one
  have hsome : search.isSome = true := by
    rw [hsearch, List.findSome?_isSome_iff]
    refine ⟨(top + f.unitExponent).toNat, by simp, ?_⟩
    have hlast : top - ((top + f.unitExponent).toNat : Int) = -f.unitExponent := by omega
    rw [hlast]
    exact isSome_onGrid?_finest hm
  obtain ⟨d, hd⟩ := Option.isSome_iff_exists.1 hsome
  obtain ⟨n, -, hn⟩ := List.exists_of_findSome?_eq_some hd
  rw [hd]
  exact contains_of_onGrid?_eq_some hn

/-- The shortest decimal is not zero. -/
theorem digits_shortest_ne_zero (f : Format) (tie : TieRule) (hm : m ≠ 0) :
    (f.shortest tie m).digits ≠ 0 := by
  intro hzero
  have h := contains_shortest f tie hm
  have hunits : (f.units 0 : ℚ) < f.units m := units_lt_units (Nat.pos_of_ne_zero hm)
  have hbelow : (0 : ℚ) ≤ f.units (m - 1) := Nat.cast_nonneg _
  have hvalue : (f.shortest tie m).value = 0 := by
    rw [Decimal.value, hzero, Nat.cast_zero, zero_mul]
  rw [hvalue, zero_mul] at h
  rw [units_zero, Nat.cast_zero] at hunits
  linarith [(contains_readingInterval_iff.1 h).1]

/-- The shortest decimal of a finite magnitude is rounded to it. -/
theorem rounds_shortest (hf : f.IsInterchange) (tie : TieRule) (hm : m ≠ 0)
    (hfinite : m < f.infinity) : f.Rounds (f.shortest tie m).value m := by
  apply rounds_of_contains hf hfinite
  have h := contains_shortest f tie hm
  push_cast at h
  rwa [pow_succ, mul_comm (2 ^ _), ← mul_assoc, mul_comm _ 2, mul_assoc] at h

end Format

end TargetAbi.Binary
