import TargetAbi.Binary.Literal
import TargetAbi.Json

/-!
# JSON numbers

An integer between `-2 ^ 63` and `2 ^ 64` is kept as one; zero with a sign and every other number is
in double precision, and has to be finite there.

Such a number is not rounded once. Its digits are gathered into a significand below `2 ^ 64`, and the
significand, rounded, is multiplied by a rounded power of ten or divided by one. A significand below
`2 ^ 53` with an exponent between -22 and 22 has only one rounding and comes out nearest; other
numbers may miss the nearest in their last places, as `7e-24` does.
-/

set_option autoImplicit false

namespace TargetAbi.Json

/-- Whether a character can stand in a number. -/
def isNumberChar (c : Char) : Bool :=
  Numeral.isDigit 10 c || c == '-' || c == '+' || c == '.' || c == 'e' || c == 'E'

/-- The digits of a number before the point: none of them a leading zero, or a single zero. -/
def isWholePart : List Char → Bool
  | ['0'] => true
  | c :: cs => c != '0' && (c :: cs).all (Numeral.isDigit 10)
  | [] => false

/-- The significand `n` followed by digits as long as it stays below `2 ^ 64`, and the digits from
the first one on that it cannot take. -/
def gatherDigits (n : Nat) : List Char → Nat × List Char
  | [] => (n, [])
  | c :: cs =>
    let next := n * 10 + (Numeral.digitValue? 10 c).getD 0
    if next < UInt64.size then gatherDigits next cs else (n, c :: cs)

/-- The significand and the exponent of a numeral. A digit before the point that is left out counts
as a zero, one after the point as absent; after digits of the whole part are left out, digits of the
fraction may still be taken. -/
def significand (d : Binary.DecimalNumeral) : Nat × Int :=
  let (n, wholeRest) := gatherDigits 0 d.whole
  let (n, fractionRest) := gatherDigits n d.fraction
  (n, d.exponent + wholeRest.length - (d.fraction.length - fractionRest.length : Nat))

/-- The exponent of the greatest power of ten in double precision. -/
def maxPower : Nat := 308

/-- A magnitude divided by `10 ^ n`, by the greatest power of ten as often as `n` exceeds its
exponent. -/
def divPower (m n : Nat) : Nat :=
  if n ≤ maxPower then Binary.double.div m (Binary.double.powerOfTen n)
  else if m = 0 then 0
  else divPower (Binary.double.div m (Binary.double.powerOfTen maxPower)) (n - maxPower)
termination_by n
decreasing_by simp only [maxPower] at *; omega

/-- A magnitude times `10 ^ e`; infinity stands for every number that is too large. -/
def scale (m : Nat) (e : Int) : Nat :=
  if e < 0 then divPower m (-e).toNat
  else if m = 0 then 0
  else if maxPower < e then Binary.double.infinity
  else Binary.double.mul m (Binary.double.powerOfTen e.toNat)

/-- The magnitude that a numeral is read as. -/
def magnitudeOf (d : Binary.DecimalNumeral) : Nat :=
  let (n, e) := significand d
  scale (Binary.double.ofNat n) e

/-- The number that the characters of a number without its sign denote. -/
def unsignedNumber? (negative : Bool) (cs : List Char) : Option Json :=
  let whole := cs.takeWhile (Numeral.isDigit 10)
  if !isWholePart whole then none
  else
    let n := Numeral.valueOf 10 whole
    if whole.length = cs.length ∧ !negative ∧ n < UInt64.size then some (int n)
    else if whole.length = cs.length ∧ negative ∧ 0 < n ∧ n ≤ Nat.pow 2 63 then some (int (-n))
    else if (cs.drop whole.length).take 1 = ['.'] ∧
        !((cs.drop (whole.length + 1)).take 1).any (Numeral.isDigit 10) then none
    else
      match (Binary.readNumeral cs).map magnitudeOf with
      | none => none
      | some m =>
        if m = Binary.double.infinity then none
        else some (float .f64 (UInt64.ofNat (Binary.double.withSign negative m)))

/-- The number that a run of number characters denotes. -/
def number? : List Char → Option Json
  | '-' :: cs => unsignedNumber? true cs
  | cs => unsignedNumber? false cs

end TargetAbi.Json
