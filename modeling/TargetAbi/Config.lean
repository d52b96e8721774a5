import TargetAbi.Platform

/-!
# Target configurations

A target is selected by an operating system family and two width flags; everything else is derived
from these three. Every combination resolves. `Config.issues` lists the combinations that no
shipping platform uses, as warnings about likely mistakes.
-/

set_option autoImplicit false

namespace TargetAbi

/-- The selection of a target platform. -/
structure Config where
  /-- Operating system family. -/
  os : OsFamily
  /-- The instruction set has 64-bit registers. -/
  is64bit : Bool
  /-- The data model is LP64: `long` and pointers are 64 bits wide. -/
  isLp64 : Bool
  deriving DecidableEq, Repr

/-- A suspicious combination found in a configuration. -/
inductive ConfigIssue where
  /-- LP64 without 64-bit registers. -/
  | lp64On32bit (os : OsFamily)
  /-- Four-byte pointers on 64-bit hardware, on a family that ships no such data model. -/
  | shortPointersOn64bit (os : OsFamily)
  deriving DecidableEq, Repr

/-- The description of an issue. -/
def ConfigIssue.description : ConfigIssue → String
  | lp64On32bit os => os.name ++ ": LP64 data model on a 32-bit instruction set"
  | shortPointersOn64bit os =>
    os.name ++ ": 64-bit target with 4-byte pointers; only Linux ships such an ABI (x32)"

/-- The line shown for an issue; every issue is a warning. -/
def ConfigIssue.text (issue : ConfigIssue) : String :=
  "warning: " ++ issue.description

namespace Config

/-- A 32-bit target with the ILP32 data model. -/
def ilp32 (os : OsFamily) : Config := ⟨os, false, false⟩

/-- A 64-bit target with the LP64 data model. -/
def lp64 (os : OsFamily) : Config := ⟨os, true, true⟩

/-- A 64-bit target with 32-bit pointers. -/
def x32 (os : OsFamily) : Config := ⟨os, true, false⟩

/-- Register width and data model in words. -/
def model (c : Config) : String :=
  (if c.is64bit then "64-bit" else "32-bit") ++ ", " ++ (if c.isLp64 then "LP64" else "ILP32")

/-- The configuration in one line. -/
def text (c : Config) : String :=
  c.os.name ++ " (" ++ c.model ++ ")"

/-- The families that ship a data model with four-byte pointers on 64-bit hardware, or might. -/
def allowsShortPointers : OsFamily → Bool
  | .linux | .windows => true
  | _ => false

/-- The suspicious combinations in a configuration. -/
def issues (c : Config) : List ConfigIssue :=
  (if c.isLp64 && !c.is64bit then [.lp64On32bit c.os] else []) ++
  (if c.is64bit && !c.isLp64 && !allowsShortPointers c.os then [.shortPointersOn64bit c.os] else [])

end Config

end TargetAbi
