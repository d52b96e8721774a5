import TargetAbi.Binary.Literal
import TargetAbi.Constant
import TargetAbi.Text

/-!
# Literals

The texts from which constants are read. White space around a literal is ignored. An integer literal
that starts with `0x` or `0X` gives the bits of the constant; any other one gives its value in decimal.
In both, underscores may stand anywhere among the digits. Float literals are those of
`TargetAbi.Binary.Literal`.

The first thing wrong from the left decides the error: a character that is no digit, or a digit
with which the number leaves its range.
-/

set_option autoImplicit false

namespace TargetAbi

/-- Why a text is no integer numeral. -/
inductive NumeralError where
  | empty
  | invalidDigit
  | tooLarge
  | tooSmall
  deriving DecidableEq, Repr

/-- The message for a rejected numeral. -/
def NumeralError.message : NumeralError → String
  | empty => "cannot parse integer from empty string"
  | invalidDigit => "invalid digit found in string"
  | tooLarge => "number too large to fit in target type"
  | tooSmall => "number too small to fit in target type"

namespace Numeral

/-- The number that `cs` denotes in a base, if it is at most `limit`; `overflow` is the error of a
number beyond it. -/
def readDigits (base limit : Nat) (overflow : NumeralError) (cs : List Char) :
    Except NumeralError Nat :=
  let (digits, rest) := cs.span (isDigit base)
  let n := valueOf base digits
  if limit < n then .error overflow
  else if rest ≠ [] then .error .invalidDigit
  else .ok n

/-- The natural number that `cs` denotes, with an optional `+` in front. -/
def readNatural (base limit : Nat) : List Char → Except NumeralError Nat
  | [] => .error .empty
  | ['+'] => .error .invalidDigit
  | '+' :: cs => readDigits base limit .tooLarge cs
  | cs => readDigits base limit .tooLarge cs

/-- The integer that `cs` denotes in decimal, with an optional sign in front; `bound` is the first
one that is too large, and its negative the least one. -/
def readInteger (bound : Nat) : List Char → Except NumeralError Int
  | [] => .error .empty
  | ['+'] => .error .invalidDigit
  | ['-'] => .error .invalidDigit
  | '+' :: cs => (readDigits 10 (bound - 1) .tooLarge cs).map Int.ofNat
  | '-' :: cs => (readDigits 10 bound .tooSmall cs).map fun (n : Nat) => -(n : Int)
  | cs => (readDigits 10 (bound - 1) .tooLarge cs).map Int.ofNat

end Numeral

/-- Why a text is no constant of a type. The text is kept without the white space around it. -/
inductive LiteralError where
  | notHexadecimal (text : String) (cause : NumeralError)
  | doesNotFit (text : String) (type : IntegerType)
  | notInteger (text : String) (type : IntegerType) (cause : NumeralError)
  | notFloat (text : String) (precision : FloatPrecision) (cause : Binary.LiteralError)
  | noLiterals (type : BasicType)
  deriving DecidableEq, Repr

/-- What is wrong with a literal, followed by the cause of it. -/
def LiteralError.chain : LiteralError → List String
  | notHexadecimal s cause => ["'" ++ s ++ "' is not a hex literal", cause.message]
  | doesNotFit s t => ["'" ++ s ++ "' does not fit in " ++ t.toBasic.name]
  | notInteger s t cause =>
    ["'" ++ s ++ "' is not a valid " ++ t.toBasic.name ++ " literal", cause.message]
  | notFloat s p cause => ["'" ++ s ++ "' is not a " ++ p.toBasic.name ++ " literal", cause.message]
  | noLiterals t =>
    ["cannot paint from " ++ t.name ++
      "; expected int32, uns32, int64, uns64, float32 or float64"]

namespace IntegerType

/-- The number of bit patterns of a type. -/
def patterns (t : IntegerType) : Nat := Nat.pow 2 (8 * t.size.toNat)

/-- The word that a decimal literal denotes. -/
def readDecimal (t : IntegerType) (digits : List Char) : Except NumeralError UInt64 :=
  match t.signedness with
  | .unsigned => (Numeral.readNatural 10 (t.patterns - 1) digits).map UInt64.ofNat
  | .signed => (Numeral.readInteger (t.patterns / 2) digits).map UInt64.ofInt

/-- The word that a literal denotes, before it is cut to the width of the type. -/
def readWord (t : IntegerType) (cs : List Char) : Except LiteralError UInt64 :=
  let text := String.ofList cs
  match cs with
  | '0' :: 'x' :: body | '0' :: 'X' :: body =>
    match Numeral.readNatural 16 (UInt64.size - 1) (body.filter (· != '_')) with
    | .error e => .error (.notHexadecimal text e)
    | .ok n => if t.patterns ≤ n then .error (.doesNotFit text t) else .ok (UInt64.ofNat n)
  | cs =>
    match t.readDecimal (cs.filter (· != '_')) with
    | .error e => .error (.notInteger text t e)
    | .ok w => .ok w

end IntegerType

/-- The float constant that a literal denotes. -/
def FloatPrecision.readConstant (p : FloatPrecision) (cs : List Char) :
    Except LiteralError Constant :=
  match p.format.readLiteral cs with
  | .error e => .error (.notFloat (String.ofList cs) p e)
  | .ok pattern => .ok (.float p (UInt64.ofNat pattern))

/-- The constant of a type that a literal denotes. -/
def Constant.read (text : String) (type : BasicType) : Except LiteralError Constant :=
  let cs := Text.trimBlank text.toList
  match IntegerType.ofBasic? type, type with
  | some t, _ =>
    match t.readWord cs with
    | .error e => .error e
    | .ok w => .ok (.integer t (t.extend w))
  | none, .float32 => FloatPrecision.f32.readConstant cs
  | none, .float64 => FloatPrecision.f64.readConstant cs
  | none, t => .error (.noLiterals t)

end TargetAbi
