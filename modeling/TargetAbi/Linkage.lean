import TargetAbi.BasicType
import TargetAbi.Text

/-!
# Linkage

The linkage kinds of a symbol. `Linkage.text` is the spelling shown to people, in which C++ is
`c++`; `Linkage.tag` is the spelling in data files, in which it is `cpp`. Reading accepts both
without regard to ASCII case.
-/

set_option autoImplicit false

namespace TargetAbi

/-- Linkage kind of a symbol. -/
inductive Linkage where
  /-- Plain C linkage. -/
  | c
  /-- C++ linkage, whose names go through a mangler. -/
  | cpp
  /-- The system calling convention of Windows. -/
  | windows
  deriving DecidableEq, Repr

namespace Linkage

/-- The spelling shown to people. -/
def text : Linkage → String
  | c => "c"
  | cpp => "c++"
  | windows => "windows"

/-- The spelling in data files. -/
def tag : Linkage → String
  | c => "c"
  | cpp => "cpp"
  | windows => "windows"

/-- The tags that the decoder knows, in the order in which it lists them. -/
def tags : List (String × Linkage) := [("c", c), ("cpp", cpp), ("windows", windows)]

/-- The linkage that `s` names, in any ASCII case. -/
def ofName? (s : String) : Option Linkage :=
  match Text.asciiLower s with
  | "c" => some c
  | "c++" | "cpp" => some cpp
  | "windows" => some windows
  | _ => none

/-- The linkage that `s` names; a rejected text is kept as it was written. -/
def parse (s : String) : Except UnknownName Linkage :=
  match ofName? s with
  | some l => .ok l
  | none => .error ⟨.linkage, s⟩

end Linkage

end TargetAbi
