import TargetAbi.BasicType
import TargetAbi.Binary.Text

/-!
# Constants

Scalar constants of the four integer types and the two float types, each held as a 64-bit word. The
word of an integer is its value extended to 64 bits, by sign for a signed type and by zeros for an
unsigned one; the word of a float is its bit pattern. `Constant.integer?` brings any word into this
form by keeping only the bits of the type's width.
-/

set_option autoImplicit false

namespace TargetAbi

/-- The types of integer constants. -/
inductive IntegerType where
  | int32
  | uns32
  | int64
  | uns64
  deriving DecidableEq, Repr

namespace IntegerType

/-- The basic type of an integer type. -/
def toBasic : IntegerType → BasicType
  | int32 => .int32
  | uns32 => .uns32
  | int64 => .int64
  | uns64 => .uns64

/-- The integer type that a basic type is, if constants can have it. -/
def ofBasic? : BasicType → Option IntegerType
  | .int32 => some int32
  | .uns32 => some uns32
  | .int64 => some int64
  | .uns64 => some uns64
  | _ => none

/-- Signedness of a type. -/
def signedness : IntegerType → Signedness
  | int32 | int64 => .signed
  | uns32 | uns64 => .unsigned

/-- Width in bytes. -/
def size : IntegerType → UInt32
  | int32 | uns32 => 4
  | int64 | uns64 => 8

/-- The word whose low bits are those of `raw` and whose other bits extend them. -/
def extend (t : IntegerType) (raw : UInt64) : UInt64 :=
  match t with
  | int32 => raw.toUInt32.toInt32.toInt64.toUInt64
  | uns32 => raw &&& 0xFFFFFFFF
  | int64 | uns64 => raw

/-- The number that a word stands for. -/
def valueOf (t : IntegerType) (bits : UInt64) : Int :=
  match t.signedness with
  | .signed => bits.toInt64.toInt
  | .unsigned => bits.toNat

end IntegerType

namespace FloatPrecision

/-- The basic type of a precision. -/
def toBasic : FloatPrecision → BasicType
  | f32 => .float32
  | f64 => .float64

/-- Width in bytes. -/
def size : FloatPrecision → UInt32
  | f32 => 4
  | f64 => 8

end FloatPrecision

/-- A scalar constant: its type, and its value as a 64-bit word. -/
inductive Constant where
  | integer (type : IntegerType) (bits : UInt64)
  | float (precision : FloatPrecision) (bits : UInt64)
  deriving DecidableEq, Repr

/-- Why a constant cannot be made or read as another type. -/
inductive ReinterpretError where
  /-- The two types differ in size. -/
  | sizeMismatch (source target : BasicType) (sourceSize targetSize : UInt32)
  /-- No constant has the type of the source. -/
  | unsupportedSource (type : BasicType)
  /-- No constant has the type asked for. -/
  | unsupportedTarget (type : BasicType)
  deriving DecidableEq, Repr

/-- The message for a failed reinterpretation. -/
def ReinterpretError.message : ReinterpretError → String
  | sizeMismatch source target m n =>
    "cannot reinterpret `" ++ source.name ++ "` (" ++ Numeral.decimal m.toNat ++ " bytes) as `" ++
      target.name ++ "` (" ++ Numeral.decimal n.toNat ++ " bytes)"
  | unsupportedSource t => "cannot reinterpret a constant of type `" ++ t.name ++ "`"
  | unsupportedTarget t => "cannot reinterpret a constant as `" ++ t.name ++ "`"

namespace Constant

/-- A signed 32-bit constant. -/
def int32 (n : Int32) : Constant := integer .int32 n.toInt64.toUInt64

/-- An unsigned 32-bit constant. -/
def uns32 (n : UInt32) : Constant := integer .uns32 n.toUInt64

/-- A signed 64-bit constant. -/
def int64 (n : Int64) : Constant := integer .int64 n.toUInt64

/-- An unsigned 64-bit constant. -/
def uns64 (n : UInt64) : Constant := integer .uns64 n

/-- The single-precision constant with the given pattern. -/
def float32 (pattern : UInt32) : Constant := float .f32 pattern.toUInt64

/-- The double-precision constant with the given pattern. -/
def float64 (pattern : UInt64) : Constant := float .f64 pattern

/-- The integer constant whose low bits are those of `raw`. -/
def integer? (type : BasicType) (raw : UInt64) : Except ReinterpretError Constant :=
  match IntegerType.ofBasic? type with
  | some t => .ok (integer t (t.extend raw))
  | none => .error (.unsupportedSource type)

/-- The type of a constant. -/
def type : Constant → BasicType
  | integer t _ => t.toBasic
  | float p _ => p.toBasic

/-- The word of a constant. -/
def bits : Constant → UInt64
  | integer _ b => b
  | float _ b => b

/-- Width in bytes of a constant's type. -/
def size : Constant → UInt32
  | integer t _ => t.size
  | float p _ => p.size

/-- The text of a constant: a decimal numeral, or the shortest decimal that reads back, with an
`f` after single precision. -/
def text : Constant → String
  | integer t b => Numeral.signedDecimal (t.valueOf b)
  | float .f32 b =>
    String.ofList (Binary.NumberStyle.constant.render Binary.single b.toNat ++ ['f'])
  | float .f64 b => String.ofList (Binary.NumberStyle.constant.render Binary.double b.toNat)

/-- The bits of a constant's width as upper-case hexadecimal digits. -/
def hexBits (c : Constant) : String :=
  let width := 2 * c.size.toNat
  -- the word of a negative 32-bit integer has its sign in the upper half
  let bits := if width = 8 then c.bits &&& 0xFFFFFFFF else c.bits
  String.ofList ('0' :: 'x' :: Numeral.hexPadded width bits.toNat)

end Constant

end TargetAbi
