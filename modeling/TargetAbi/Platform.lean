import TargetAbi.Text

/-!
# Operating system families

The families a target can belong to. A family has one canonical lower-case name; reading a name
ignores ASCII case and knows four further names, two for macOS and two for Windows. Data files are
written with a table of tags and read by the names, so the tags have to be among them.
-/

set_option autoImplicit false

namespace TargetAbi

/-- Operating system family of a target. -/
inductive OsFamily where
  | windows
  | linux
  | macos
  | freebsd
  | openbsd
  | dragonflybsd
  | solaris
  deriving DecidableEq, Repr

/-- A text that names no supported operating system. -/
structure UnknownOs where
  name : String
  deriving DecidableEq, Repr

/-- The message for a rejected operating system name. -/
def UnknownOs.message (e : UnknownOs) : String :=
  "unsupported operating system: '" ++ e.name ++ "'"

namespace OsFamily

/-- Every supported family. -/
def all : List OsFamily :=
  [windows, linux, macos, freebsd, openbsd, dragonflybsd, solaris]

/-- The canonical lower-case name. -/
def name : OsFamily → String
  | windows => "windows"
  | linux => "linux"
  | macos => "macos"
  | freebsd => "freebsd"
  | openbsd => "openbsd"
  | dragonflybsd => "dragonflybsd"
  | solaris => "solaris"

/-- The tag of a family in data files, which the encoders write. -/
def tag : OsFamily → String
  | windows => "windows"
  | linux => "linux"
  | macos => "macos"
  | freebsd => "freebsd"
  | openbsd => "openbsd"
  | dragonflybsd => "dragonflybsd"
  | solaris => "solaris"

/-- Lower-case names accepted beside the canonical ones. -/
def aliases : List (String × OsFamily) :=
  [("osx", macos), ("darwin", macos), ("win32", windows), ("win64", windows)]

/-- The family whose canonical name or alias is exactly `s`. -/
def ofLowerName? (s : String) : Option OsFamily :=
  (aliases.lookup s).or (all.find? (·.name == s))

/-- The family that `s` names, in any ASCII case. -/
def ofName? (s : String) : Option OsFamily :=
  ofLowerName? (Text.asciiLower s)

/-- The family that `s` names; a rejected text is kept as it was written. -/
def parse (s : String) : Except UnknownOs OsFamily :=
  match ofName? s with
  | some os => .ok os
  | none => .error ⟨s⟩

/-- A family is written by its canonical name. -/
theorem tag_eq_name (os : OsFamily) : os.tag = os.name := by
  cases os <;> rfl

/-- Every family except Windows follows POSIX conventions. -/
def isPosix : OsFamily → Bool
  | windows => false
  | _ => true

end OsFamily

end TargetAbi
