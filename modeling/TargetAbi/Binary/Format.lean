/-!
# Binary floating-point formats

The two interchange formats of the library, single and double precision, as bit patterns. A pattern
is a natural number below `2 ^ width`: one sign bit, then the *magnitude*. Magnitudes are ordered
like the values that they stand for, with infinity above every finite one and the NaNs above
infinity.

Every finite magnitude stands for a whole number of *units*, where one unit is the smallest
positive value of the format, `2 ^ (-unitExponent)`. So the value of a finite pattern is the natural
number `units m`, up to that common factor and the sign, and no rational number is needed to compare
two of them.

Main definitions: `FloatPrecision`, `Format`, `Format.magnitude`, `Format.units`.
-/

set_option autoImplicit false

namespace TargetAbi

/-- Precision of a floating-point constant. -/
inductive FloatPrecision where
  /-- Single precision, 32 bits. -/
  | f32
  /-- Double precision, 64 bits. -/
  | f64
  deriving DecidableEq, Repr

namespace Binary

/-- A binary interchange format. -/
structure Format where
  /-- Bits of the significand, the hidden bit included. -/
  precision : Nat
  /-- Bits of the exponent field. -/
  exponentBits : Nat
  deriving DecidableEq, Repr

/-- Single precision. -/
def single : Format := ⟨24, 8⟩

/-- Double precision. -/
def double : Format := ⟨53, 11⟩

namespace Format

/-- Bits of a pattern. -/
def width (f : Format) : Nat := f.precision + f.exponentBits

/-- The place of the hidden bit, `2 ^ (precision - 1)`. -/
def hiddenBit (f : Format) : Nat := Nat.pow 2 (f.precision - 1)

/-- The exponent of the least power of two that is too large to be finite. -/
def maxExponent (f : Format) : Nat := Nat.pow 2 (f.exponentBits - 1)

/-- One unit is `2 ^ (-unitExponent)`. -/
def unitExponent (f : Format) : Nat := f.maxExponent + f.precision - 3

/-- The place of the sign bit. -/
def signBit (f : Format) : Nat := Nat.pow 2 (f.width - 1)

/-- The magnitude of infinity. -/
def infinity (f : Format) : Nat := (Nat.pow 2 f.exponentBits - 1) * f.hiddenBit

/-- The magnitude of the quiet NaN without payload. -/
def quietNaN (f : Format) : Nat := f.infinity + f.hiddenBit / 2

/-- Whether the sign bit of a pattern is set. -/
def isNegative (f : Format) (bits : Nat) : Bool := bits / f.signBit % 2 == 1

/-- A pattern without its sign bit. -/
def magnitude (f : Format) (bits : Nat) : Nat := bits % f.signBit

/-- The pattern of a sign and a magnitude. -/
def withSign (f : Format) (negative : Bool) (magnitude : Nat) : Nat :=
  if negative then f.signBit + magnitude else magnitude

/-- The number of units that a finite magnitude stands for. A magnitude whose exponent field is
zero stands for itself; the others have the hidden bit and are scaled by their exponent field. -/
def units (f : Format) (magnitude : Nat) : Nat :=
  let field := magnitude / f.hiddenBit
  let fraction := magnitude % f.hiddenBit
  if field = 0 then fraction else (f.hiddenBit + fraction) * Nat.pow 2 (field - 1)

end Format

end Binary

/-- The interchange format of a precision. -/
def FloatPrecision.format : FloatPrecision → Binary.Format
  | f32 => Binary.single
  | f64 => Binary.double

end TargetAbi
