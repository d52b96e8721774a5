import TargetAbi.BasicType
import TargetAbi.Config

/-!
# Vector types

Whether a vector of a given size and element type is legal on a target. The outcome is a verdict
for a diagnostic, not an error: the first violated rule, in the order platform, size, element.
-/

set_option autoImplicit false

namespace TargetAbi

/-- Outcome of checking a vector type. -/
inductive VectorVerdict where
  | ok
  /-- The target has no vector types at all. -/
  | unsupportedPlatform
  /-- The vector is not 16 or 32 bytes wide. -/
  | wrongSize
  /-- The element type cannot be vectorised. -/
  | wrongBaseType
  deriving DecidableEq, Repr

namespace VectorVerdict

/-- The number of a verdict in diagnostics. -/
def code : VectorVerdict → Nat
  | ok => 0
  | unsupportedPlatform => 1
  | wrongSize => 2
  | wrongBaseType => 3

/-- The verdict in words. -/
def text : VectorVerdict → String
  | ok => "ok"
  | unsupportedPlatform => "vector types are not supported on this target"
  | wrongSize => "vector size must be 16 or 32 bytes"
  | wrongBaseType => "element type is not supported in vectors"

/-- The name of a verdict as a constructor of its type. -/
def constructorName : VectorVerdict → String
  | ok => "Ok"
  | unsupportedPlatform => "UnsupportedPlatform"
  | wrongSize => "WrongSize"
  | wrongBaseType => "WrongBaseType"

/-- The verdict in data files. -/
def tag : VectorVerdict → String
  | ok => "ok"
  | unsupportedPlatform => "unsupported-platform"
  | wrongSize => "wrong-size"
  | wrongBaseType => "wrong-base-type"

end VectorVerdict

/-- The element types of vectors. -/
def BasicType.isVectorElement : BasicType → Bool
  | .void | .int8 | .uns8 | .int16 | .uns16 | .int32 | .uns32 | .int64 | .uns64 | .float32
  | .float64 => true
  | _ => false

/-- The verdict on a vector of `size` bytes of `element`. -/
def Config.checkVector (c : Config) (size : UInt64) (element : BasicType) : VectorVerdict :=
  if !c.is64bit && c.os != .macos then .unsupportedPlatform
  else if size != 16 && size != 32 then .wrongSize
  else if element.isVectorElement then .ok
  else .wrongBaseType

end TargetAbi
