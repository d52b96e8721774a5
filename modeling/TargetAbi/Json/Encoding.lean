import TargetAbi.Constant
import TargetAbi.Json
import TargetAbi.Target

/-!
# JSON forms

The JSON value of each type that data files hold. Records are objects whose fields stand in
declaration order; a choice without payload is its tag, and one with a payload an object with the
tag as its only key.
-/

set_option autoImplicit false

namespace TargetAbi

/-- A natural number as a JSON integer. -/
def Json.nat (n : Nat) : Json := .int n

/-- The tag of a signedness in data files. -/
def Signedness.tag : Signedness → String
  | signed => "signed"
  | unsigned => "unsigned"

/-- The tag of a precision in data files. -/
def FloatPrecision.tag : FloatPrecision → String
  | f32 => "f32"
  | f64 => "f64"

/-- The JSON form of a basic type. -/
def BasicType.toJson (t : BasicType) : Json := .str t.tag

/-- The JSON form of a linkage. -/
def Linkage.toJson (l : Linkage) : Json := .str l.tag

/-- The JSON form of a signedness. -/
def Signedness.toJson (s : Signedness) : Json := .str s.tag

/-- The JSON form of a precision. -/
def FloatPrecision.toJson (p : FloatPrecision) : Json := .str p.tag

/-- The JSON form of a mangling scheme. -/
def ManglingScheme.toJson (s : ManglingScheme) : Json := .str s.tag

/-- The JSON form of an operating system family. -/
def OsFamily.toJson (os : OsFamily) : Json := .str os.tag

/-- The JSON form of a vector verdict. -/
def VectorVerdict.toJson (v : VectorVerdict) : Json := .str v.tag

/-- The JSON form of a type reference. -/
def TypeRef.toJson : TypeRef → Json
  | basic t => .obj [("basic", t.toJson)]
  | pointer t => .obj [("pointer", t.toJson)]
  | named tag => .obj [("named", .str tag)]

/-- The JSON form of a configuration. -/
def Config.toJson (c : Config) : Json :=
  .obj [("os", c.os.toJson), ("is-64bit", .bool c.is64bit), ("is-lp64", .bool c.isLp64)]

/-- The JSON form of an extended float layout. -/
def ExtendedFloatLayout.toJson (l : ExtendedFloatLayout) : Json :=
  .obj [("size", .nat l.size.toNat), ("padding", .nat l.padding.toNat),
    ("alignment", .nat l.alignment.toNat)]

/-- The JSON form of ABI facts. -/
def AbiFacts.toJson (f : AbiFacts) : Json :=
  .obj [("pointer-size", .nat f.pointerSize.toNat), ("class-info-size", .nat f.classInfoSize.toNat),
    ("max-static-data-size", .nat f.maxStaticDataSize.toNat),
    ("c-long-size", .nat f.cLongSize.toNat),
    ("c-long-double-size", .nat f.cLongDoubleSize.toNat), ("real", f.real.toJson),
    ("cpp-exceptions", .bool f.cppExceptions),
    ("reverse-cpp-overloads", .bool f.reverseCppOverloads),
    ("system-linkage", f.systemLinkage.toJson)]

/-- The JSON form of the properties of a precision: the numbers that JSON can write are numbers,
and NaNs and infinities are their patterns. -/
def FloatProperties.toJson (p : FloatProperties) : Json :=
  .obj [("max", .float p.precision p.max), ("min-normal", .float p.precision p.minNormal),
    ("nan", .str (bitsHex p.precision p.nan)), ("snan", .str (bitsHex p.precision p.snan)),
    ("infinity", .str (bitsHex p.precision p.infinity)),
    ("epsilon", .float p.precision p.epsilon), ("dig", .int p.dig), ("mant-dig", .int p.mantDig),
    ("max-exp", .int p.maxExp), ("min-exp", .int p.minExp), ("max-10-exp", .int p.max10Exp),
    ("min-10-exp", .int p.min10Exp)]

/-- The JSON form of the three float categories. -/
def FloatCategories.toJson (c : FloatCategories) : Json :=
  .obj [("single", c.single.toJson), ("double", c.double.toJson), ("extended", c.extended.toJson)]

/-- The JSON form of a target. -/
def Target.toJson (t : Target) : Json :=
  .obj [("config", t.config.toJson), ("facts", t.facts.toJson), ("float", t.float.toJson)]

/-- The JSON form of a constant, which holds its word. -/
def Constant.toJson : Constant → Json
  | integer t b => .obj [("integer", .obj [("ty", t.toBasic.toJson), ("bits", .nat b.toNat)])]
  | float p b => .obj [("float", .obj [("precision", p.toJson), ("bits", .nat b.toNat)])]

end TargetAbi
