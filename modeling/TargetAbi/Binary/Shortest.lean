import TargetAbi.Binary.Format

/-!
# The fewest digits that read back

The decimal numbers that round to a given magnitude fill an interval, whose ends lie half-way to the
neighbouring magnitudes and belong to it when the magnitude is even. `Format.shortest` looks for a
number in that interval on decimal grids, the coarsest first: on each grid the two neighbours of the
exact value are tried, and the first grid with a hit wins. Of two hits the nearer one is taken; if
both are equally near, a `TieRule` chooses.

The finest grid has the spacing `10 ^ (-unitExponent)`. Every finite value lies on it, so the search
always ends with a hit.
-/

set_option autoImplicit false

namespace TargetAbi.Binary

/-- A positive decimal number, `digits * 10 ^ exponent`. -/
structure Decimal where
  digits : Nat
  exponent : Int
  deriving DecidableEq, Repr

/-- Which of two equally near decimals is taken. -/
inductive TieRule where
  /-- The larger one. -/
  | up
  /-- The one whose last digit is even. -/
  | even
  deriving DecidableEq, Repr

/-- Whether the rule takes the lower one of two equally near neighbours on a grid. -/
def TieRule.takesLower : TieRule → Nat → Bool
  | up, _ => false
  | even, lower => lower % 2 == 0

/-- The interval of decimals that round to a magnitude, in half units. -/
structure ReadingInterval where
  lower : Nat
  value : Nat
  upper : Nat
  /-- Whether the two ends belong to the interval. -/
  closed : Bool
  deriving DecidableEq, Repr

namespace Format

/-- The interval of decimals that round to the magnitude `m`. -/
def readingInterval (f : Format) (m : Nat) : ReadingInterval where
  lower := f.units (m - 1) + f.units m
  value := 2 * f.units m
  upper := f.units m + f.units (m + 1)
  closed := m % 2 == 0

/-- The exponent of the leading decimal digit of `num / den`, for positive arguments. -/
def leadingExponent (num den : Nat) : Int :=
  if den ≤ num then (Nat.toDigits 10 (num / den)).length - 1
  else -(Nat.toDigits 10 ((den - 1) / num)).length

/-- The neighbour of the interval's value on the grid of spacing `10 ^ exponent` that reads back,
if one does. `scale` half units make one. -/
def onGrid? (tie : TieRule) (i : ReadingInterval) (scale : Nat) (exponent : Int) :
    Option Decimal :=
  let step := scale * Nat.pow 10 exponent.toNat
  let fine := Nat.pow 10 (-exponent).toNat
  let below := i.value * fine / step
  let above := below + 1
  let inside (d : Nat) : Bool :=
    let p := d * step
    if i.closed then i.lower * fine ≤ p && p ≤ i.upper * fine
    else i.lower * fine < p && p < i.upper * fine
  let toBelow := i.value * fine - below * step
  let toAbove := above * step - i.value * fine
  let prefersBelow := toBelow < toAbove || (toBelow == toAbove && tie.takesLower below)
  if inside below && (prefersBelow || !inside above) then some ⟨below, exponent⟩
  else if inside above then some ⟨above, exponent⟩
  else none

/-- The shortest decimal that reads back as the magnitude `m`, for a positive finite `m`. -/
def shortest (f : Format) (tie : TieRule) (m : Nat) : Decimal :=
  let i := f.readingInterval m
  let scale := Nat.pow 2 (f.unitExponent + 1)
  let top := leadingExponent i.value scale
  ((List.range (top + f.unitExponent).toNat.succ).findSome? fun (n : Nat) =>
    onGrid? tie i scale (top - n)).getD ⟨0, 0⟩

end Format

end TargetAbi.Binary
