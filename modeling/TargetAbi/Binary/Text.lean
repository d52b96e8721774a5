import TargetAbi.Binary.Rounding
import TargetAbi.Binary.Shortest
import TargetAbi.Text.Numeral

/-!
# Writing floating-point numbers

The shortest digits of a number are laid out by a style: which numbers are written positionally,
which with an exponent, how the exponent is spelt, and which of two equally near shortest decimals is
written. `style.render f bits` is the text of a pattern.
-/

set_option autoImplicit false

namespace TargetAbi.Binary

/-- How a number is laid out. -/
structure NumberStyle where
  /-- Exponents of the leading digit for which a number is written without an exponent; `none`
  stands for all. -/
  positional : Option (Int × Int)
  /-- Whether a positive exponent is written with a `+`. -/
  plusSign : Bool
  /-- Which of two equally near shortest decimals is written. -/
  tie : TieRule
  deriving DecidableEq, Repr

namespace NumberStyle

/-- Constants and reports: positional from `1e-4` up to `1e16`. -/
def constant : NumberStyle := ⟨some (-4, 15), false, .up⟩

/-- JSON numbers: positional from `1e-5` up to `1e16`, a `+` before positive exponents, and ties to
the even digit. -/
def json : NumberStyle := ⟨some (-5, 15), true, .even⟩

/-- Numbers without exponents. -/
def plain : NumberStyle := ⟨none, false, .up⟩

/-- Digits without the zeros at their end. -/
def dropTrailingZeros (ds : List Char) : List Char :=
  (ds.reverse.dropWhile (· == '0')).reverse

/-- Digits with the point after the digit of exponent zero; at least one digit stands on both
sides of it. `top` is the exponent of the first digit. -/
def positionalDigits (ds : List Char) (top : Int) : List Char :=
  if 0 ≤ top then
    let n := top.toNat + 1
    let fraction := ds.drop n
    ds.take n ++ List.replicate (n - ds.length) '0' ++ '.' ::
      (if fraction.isEmpty then ['0'] else fraction)
  else '0' :: '.' :: List.replicate ((-top).toNat - 1) '0' ++ ds

/-- Digits with the point after the first one, if there are more, and the exponent of the first. -/
def exponentDigits (plus : Bool) (ds : List Char) (top : Int) : List Char :=
  let sign := if top < 0 then ['-'] else if plus then ['+'] else []
  ds.take 1 ++ (if (ds.drop 1).isEmpty then [] else '.' :: ds.drop 1) ++ 'e' :: sign ++
    Numeral.decimalDigits top.natAbs

/-- Whether a number whose leading digit has the exponent `top` is written positionally. -/
def isPositional (s : NumberStyle) (top : Int) : Bool :=
  match s.positional with
  | none => true
  | some (least, most) => least ≤ top && top ≤ most

/-- The text of a positive decimal. -/
def decimal (s : NumberStyle) (d : Decimal) : List Char :=
  let all := Numeral.decimalDigits d.digits
  let top := d.exponent + all.length - 1
  let ds := dropTrailingZeros all
  if s.isPositional top then positionalDigits ds top else exponentDigits s.plusSign ds top

/-- The text of a magnitude. -/
def magnitude (s : NumberStyle) (f : Format) (m : Nat) : List Char :=
  if m = f.infinity then "inf".toList
  else if m = 0 then "0.0".toList
  else s.decimal (f.shortest s.tie m)

/-- The text of a pattern; a NaN is written without its sign and payload. -/
def render (s : NumberStyle) (f : Format) (bits : Nat) : List Char :=
  let m := f.magnitude bits
  if f.infinity < m then "NaN".toList
  else if f.isNegative bits then '-' :: s.magnitude f m
  else s.magnitude f m

end NumberStyle

end TargetAbi.Binary
