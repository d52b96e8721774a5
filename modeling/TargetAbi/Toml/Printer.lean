import TargetAbi.Binary.Rounding
import TargetAbi.Binary.Text
import TargetAbi.Target
import TargetAbi.Toml.Lexeme

/-!
# Writing TOML

A written document is a list of sections: the fields of the document itself first, without a header,
then one table after the other under its header, with an empty line between two sections. Floats are
written at double precision and without exponents.
-/

set_option autoImplicit false

namespace TargetAbi

namespace Toml

/-- The form of a character in a string. -/
def escapeChar (c : Char) : List Char :=
  if c = '"' ∨ c = '\\' then ['\\', c]
  else if isPlain c then [c]
  else '\\' :: 'u' :: Numeral.hexFixed 4 c.toNat

/-- The characters of a scalar. -/
def Scalar.chars : Scalar → List Char
  | string s => '"' :: s.toList.flatMap escapeChar ++ ['"']
  | integer n => (Numeral.signedDecimal n).toList
  | float bits => Binary.NumberStyle.plain.render Binary.double bits.toNat
  | boolean true => "true".toList
  | boolean false => "false".toList
  | dateTime text => text.toList

/-- A field of a section: an unquoted key and a scalar. -/
abbrev Field := String × Scalar

/-- The line of a field. -/
def fieldLine (field : Field) : List Char :=
  field.1.toList ++ ' ' :: '=' :: ' ' :: field.2.chars ++ ['\n']

/-- A table that is written under a header; the empty path is the document itself. -/
structure Section where
  path : List String
  fields : List Field

/-- The characters of a section. -/
def Section.chars (s : Section) : List Char :=
  (if s.path = [] then []
    else '[' :: (String.intercalate "." s.path).toList ++ [']', '\n']) ++
  s.fields.flatMap fieldLine

/-- The text of a document. -/
def print (sections : List Section) : String :=
  String.ofList (List.intercalate ['\n'] (sections.map Section.chars))

/-- A natural number as a scalar. -/
def Scalar.nat (n : Nat) : Scalar := .integer n

end Toml

open Toml (Field Section Scalar)

/-- The fields of a configuration. -/
def Config.tomlFields (c : Config) : List Field :=
  [("os", .string c.os.tag), ("is-64bit", .boolean c.is64bit), ("is-lp64", .boolean c.isLp64)]

/-- The TOML form of a configuration. -/
def Config.toToml (c : Config) : String := Toml.print [⟨[], c.tomlFields⟩]

/-- The fields of an extended float layout. -/
def ExtendedFloatLayout.tomlFields (l : ExtendedFloatLayout) : List Field :=
  [("size", .nat l.size.toNat), ("padding", .nat l.padding.toNat),
    ("alignment", .nat l.alignment.toNat)]

/-- The fields of ABI facts that are no tables. -/
def AbiFacts.tomlFields (f : AbiFacts) : List Field :=
  [("pointer-size", .nat f.pointerSize.toNat), ("class-info-size", .nat f.classInfoSize.toNat),
    ("max-static-data-size", .nat f.maxStaticDataSize.toNat),
    ("c-long-size", .nat f.cLongSize.toNat),
    ("c-long-double-size", .nat f.cLongDoubleSize.toNat),
    ("cpp-exceptions", .boolean f.cppExceptions),
    ("reverse-cpp-overloads", .boolean f.reverseCppOverloads),
    ("system-linkage", .string f.systemLinkage.tag)]

/-- A finite pattern of a precision as a scalar. -/
def FloatPrecision.tomlFloat (p : FloatPrecision) (bits : UInt64) : Scalar :=
  .float (UInt64.ofNat (p.format.convertPattern Binary.double bits.toNat))

/-- The fields of the properties of a precision. NaNs and infinities are given by their patterns. -/
def FloatProperties.tomlFields (p : FloatProperties) : List Field :=
  [("max", p.precision.tomlFloat p.max), ("min-normal", p.precision.tomlFloat p.minNormal),
    ("nan", .string (bitsHex p.precision p.nan)), ("snan", .string (bitsHex p.precision p.snan)),
    ("infinity", .string (bitsHex p.precision p.infinity)),
    ("epsilon", p.precision.tomlFloat p.epsilon), ("dig", .integer p.dig),
    ("mant-dig", .integer p.mantDig), ("max-exp", .integer p.maxExp),
    ("min-exp", .integer p.minExp), ("max-10-exp", .integer p.max10Exp),
    ("min-10-exp", .integer p.min10Exp)]

/-- The sections of the three float categories below a path. -/
def FloatCategories.tomlSections (c : FloatCategories) (path : List String) : List Section :=
  [⟨path ++ ["single"], c.single.tomlFields⟩, ⟨path ++ ["double"], c.double.tomlFields⟩,
    ⟨path ++ ["extended"], c.extended.tomlFields⟩]

/-- The TOML form of the three float categories. -/
def FloatCategories.toToml (c : FloatCategories) : String := Toml.print (c.tomlSections [])

/-- The TOML form of a target. -/
def Target.toToml (t : Target) : String :=
  Toml.print
    ([⟨["config"], t.config.tomlFields⟩, ⟨["facts"], t.facts.tomlFields⟩,
      ⟨["facts", "real"], t.facts.real.tomlFields⟩] ++ t.float.tomlSections ["float"])

end TargetAbi
