import TargetAbi.Binary.Text
import TargetAbi.Target
import TargetAbi.Text

/-!
# Reports

The description of a target for people: its binary interface, its linkage, the size and alignment of
every basic type that a value can have, and its floating-point categories.
-/

set_option autoImplicit false

namespace TargetAbi

namespace Report

/-- A line of a report. -/
def line (parts : List String) : String := String.join parts ++ "\n"

/-- A line with a label and a value. -/
def labelled (label value : String) : String :=
  line ["  ", Text.padEnd 20 label, " ", value]

/-- A number of bytes. -/
def byteCount (n : UInt32) : String := Numeral.decimal n.toNat ++ " bytes"

/-- A number in hexadecimal. -/
def hexNumber (n : Nat) : String := "0x" ++ String.ofList (Numeral.hex n)

/-- An answer to a question. -/
def yesNo (b : Bool) : String := if b then "yes" else "no"

/-- A number in a column. -/
def column (width n : Nat) : String := Text.padStart width (Numeral.decimal n)

/-- An extended float layout in one line. -/
def layout (l : ExtendedFloatLayout) : String :=
  "size " ++ Numeral.decimal l.size.toNat ++ ", padding " ++ Numeral.decimal l.padding.toNat ++
    ", align " ++ Numeral.decimal l.alignment.toNat

/-- The line of a basic type. -/
def typeLine (t : Target) (type : BasicType) : String :=
  line ["  ", Text.padEnd 12 type.name, " size ", column 2 (t.sizeOf type).toNat, "  align ",
    column 2 (t.alignmentOf type).toNat]

/-- A float pattern in the style of constants. -/
def number (p : FloatPrecision) (bits : UInt64) : String :=
  String.ofList (Binary.NumberStyle.constant.render p.format bits.toNat)

/-- The line of a floating-point category. -/
def floatLine (name : String) (p : FloatProperties) : String :=
  line ["  ", Text.padEnd 7 name, " dig ", Text.padStart 2 (Numeral.signedDecimal p.dig),
    "  mant_dig ", Text.padStart 2 (Numeral.signedDecimal p.mantDig),
    "  exp [", Numeral.signedDecimal p.minExp, ", ", Numeral.signedDecimal p.maxExp, "]  max ",
    number p.precision p.max, "  epsilon ", number p.precision p.epsilon, "  snan ",
    FloatProperties.bitsHex p.precision p.snan]

end Report

namespace Target

open Report

/-- The report on a target. -/
def report (t : Target) : String :=
  String.join
    ([line ["=== Target: ", t.config.text, " ==="],
      "\n",
      "--- ABI ---\n",
      labelled "Pointer size:" (byteCount t.facts.pointerSize),
      labelled "C long:" (byteCount t.facts.cLongSize),
      labelled "C long double:" (byteCount t.facts.cLongDoubleSize),
      labelled "real:" (layout t.facts.real),
      labelled "ClassInfo size:" (hexNumber t.facts.classInfoSize.toNat),
      labelled "Max static data:" (hexNumber t.facts.maxStaticDataSize.toNat),
      labelled "Critical section:" (byteCount t.config.criticalSectionSize),
      labelled "va_list:" t.config.vaListType.text,
      "\n",
      "--- Linkage ---\n",
      labelled "extern(System):" t.facts.systemLinkage.text,
      labelled "C++ mangling:" t.manglingScheme.name,
      labelled "C++ exceptions:" (yesNo t.facts.cppExceptions),
      labelled "Reverse overloads:" (yesNo t.facts.reverseCppOverloads),
      "\n",
      "--- Alignment ---\n"] ++
    (BasicType.all.filter (· != .void)).map (typeLine t) ++
    ["\n",
      "--- Floating point ---\n",
      floatLine "float" t.float.single,
      floatLine "double" t.float.double,
      floatLine "real" t.float.extended])

end Target

end TargetAbi
