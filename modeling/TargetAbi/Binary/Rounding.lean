import TargetAbi.Binary.Format

/-!
# Rounding to a binary format

The magnitude nearest to a quotient of natural numbers, with ties to the even one and overflow to
infinity. A quotient is rounded once, directly to the format that is asked for. As a finite magnitude
is a whole number of units, the exact product and the exact quotient of two of them are quotients of
natural numbers too, and are rounded in the same way.
-/

set_option autoImplicit false

namespace TargetAbi.Binary

/-- The natural number nearest to `num / den`, a tie going to the even one. -/
def roundHalfEven (num den : Nat) : Nat :=
  let q := num / den
  let r := num % den
  if 2 * r < den then q
  else if den < 2 * r then q + 1
  else q + q % 2

namespace Format

/-- The magnitude nearest to `num / den`. In units the quotient has `count` before the point; the
grid around it has a spacing of `2 ^ shift` units, where `shift` is what `count` has beyond the
precision. A significand rounded up to the next power of two carries into the exponent field. -/
def ofQuotient (f : Format) (num den : Nat) : Nat :=
  let scaled := num * Nat.pow 2 f.unitExponent
  let count := scaled / den
  let shift := count.log2 + 1 - f.precision
  min f.infinity (shift * f.hiddenBit + roundHalfEven scaled (den * Nat.pow 2 shift))

/-- The magnitude nearest to `digits * 10 ^ exponent`. With `n` decimal digits the number lies
between `10 ^ (n + exponent - 1)` and `10 ^ (n + exponent)`; as `2 ^ 3 < 10`, numbers far outside the
range of the format are told from this alone. -/
def ofDecimal (f : Format) (digits : Nat) (exponent : Int) : Nat :=
  if digits = 0 then 0
  else
    let top : Int := (Nat.toDigits 10 digits).length + exponent
    if (f.maxExponent : Int) ≤ 3 * (top - 1) then f.infinity
    else if 3 * top < -(f.unitExponent : Int) then 0
    else if 0 ≤ exponent then f.ofQuotient (digits * Nat.pow 10 exponent.toNat) 1
    else f.ofQuotient digits (Nat.pow 10 (-exponent).toNat)

/-- The magnitude of the target format nearest to a finite magnitude of this one. -/
def convert (f target : Format) (magnitude : Nat) : Nat :=
  target.ofQuotient (f.units magnitude) (Nat.pow 2 f.unitExponent)

/-- The pattern of the target format nearest to a finite pattern of this one, with its sign. -/
def convertPattern (f target : Format) (bits : Nat) : Nat :=
  target.withSign (f.isNegative bits) (f.convert target (f.magnitude bits))

/-- The magnitude nearest to a natural number. -/
def ofNat (f : Format) (n : Nat) : Nat := f.ofQuotient n 1

/-- The magnitude nearest to `10 ^ n`. -/
def powerOfTen (f : Format) (n : Nat) : Nat := f.ofDecimal 1 n

/-- The rounded product of two finite magnitudes. -/
def mul (f : Format) (a b : Nat) : Nat :=
  f.ofQuotient (f.units a * f.units b) (Nat.pow 2 (2 * f.unitExponent))

/-- The rounded quotient of a finite magnitude by one that is not zero. -/
def div (f : Format) (a b : Nat) : Nat := f.ofQuotient (f.units a) (f.units b)

end Format

end TargetAbi.Binary
