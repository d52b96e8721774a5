import TargetAbi.Binary.Rounding
import TargetAbi.Text.Numeral

/-!
# Properties of floating-point types

The numeric properties that a compile-time evaluator answers for each category of floating-point
type. Values are given as bit patterns, so that NaNs and infinities are exact. The extended
category is evaluated at double precision.
-/

set_option autoImplicit false

namespace TargetAbi

/-- Numeric properties of one precision. -/
structure FloatProperties where
  precision : FloatPrecision
  /-- The largest finite value. -/
  max : UInt64
  /-- The smallest positive value with a full significand. -/
  minNormal : UInt64
  /-- The quiet NaN without payload. -/
  nan : UInt64
  /-- A NaN whose quiet bit is clear and whose payload is not zero. -/
  snan : UInt64
  infinity : UInt64
  /-- The distance from one to the next larger value. -/
  epsilon : UInt64
  /-- Decimal digits that survive a round trip. -/
  dig : Int
  mantDig : Int
  maxExp : Int
  minExp : Int
  max10Exp : Int
  min10Exp : Int
  deriving DecidableEq, Repr

namespace FloatProperties

/-- The properties that a format determines, with its decimal characteristics. -/
def ofFormat (p : FloatPrecision) (dig max10Exp min10Exp : Int) : FloatProperties :=
  let f := p.format
  { precision := p
    max := UInt64.ofNat (f.infinity - 1)
    minNormal := UInt64.ofNat f.hiddenBit
    nan := UInt64.ofNat f.quietNaN
    snan := UInt64.ofNat (f.infinity + f.hiddenBit / 4)
    infinity := UInt64.ofNat f.infinity
    epsilon := UInt64.ofNat (f.ofQuotient 1 f.hiddenBit)
    dig := dig
    mantDig := f.precision
    maxExp := f.maxExponent
    minExp := 3 - f.maxExponent
    max10Exp := max10Exp
    min10Exp := min10Exp }

/-- The properties of a precision. -/
def of : FloatPrecision → FloatProperties
  | .f32 => ofFormat .f32 6 38 (-37)
  | .f64 => ofFormat .f64 15 308 (-307)

/-- The hexadecimal digits of a pattern. -/
def digitCount : FloatPrecision → Nat
  | .f32 => 8
  | .f64 => 16

/-- A pattern as `0x` and its upper-case hexadecimal numeral, zero-padded to the width of the
precision. -/
def bitsHex (p : FloatPrecision) (bits : UInt64) : String :=
  String.ofList ('0' :: 'x' :: Numeral.hexPadded (digitCount p) bits.toNat)

end FloatProperties

/-- Properties of the three floating-point categories. -/
structure FloatCategories where
  single : FloatProperties
  double : FloatProperties
  extended : FloatProperties
  deriving DecidableEq, Repr

/-- The categories as they are evaluated. -/
def FloatCategories.host : FloatCategories := ⟨.of .f32, .of .f64, .of .f64⟩

end TargetAbi
