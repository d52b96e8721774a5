import TargetAbi.Config

/-!
# Presets

The built-in targets, each with a name and a short description.
-/

set_option autoImplicit false

namespace TargetAbi

/-- A built-in target. -/
structure Preset where
  name : String
  description : String
  config : Config
  deriving DecidableEq, Repr

/-- A text that names no built-in target. -/
structure UnknownPreset where
  name : String
  deriving DecidableEq, Repr

/-- The message for a rejected preset name. -/
def UnknownPreset.message (e : UnknownPreset) : String :=
  "unknown target preset: '" ++ e.name ++ "'"

namespace Preset

/-- The built-in targets, in the order in which they are listed. -/
def all : List Preset :=
  [⟨"linux-x86", "Linux, 32-bit x86", .ilp32 .linux⟩,
    ⟨"linux-x86_64", "Linux, x86-64 (LP64)", .lp64 .linux⟩,
    ⟨"linux-x32", "Linux, x86-64 instructions with 32-bit pointers", .x32 .linux⟩,
    ⟨"windows-x86", "Windows, 32-bit x86", .ilp32 .windows⟩,
    ⟨"windows-x86_64", "Windows, x86-64", .lp64 .windows⟩,
    ⟨"macos-x86", "macOS, 32-bit x86", .ilp32 .macos⟩,
    ⟨"macos-x86_64", "macOS, x86-64", .lp64 .macos⟩,
    ⟨"freebsd-x86", "FreeBSD, 32-bit x86", .ilp32 .freebsd⟩,
    ⟨"freebsd-x86_64", "FreeBSD, x86-64", .lp64 .freebsd⟩,
    ⟨"openbsd-x86_64", "OpenBSD, x86-64", .lp64 .openbsd⟩,
    ⟨"dragonflybsd-x86_64", "DragonFly BSD, x86-64", .lp64 .dragonflybsd⟩,
    ⟨"solaris-x86_64", "Solaris, x86-64", .lp64 .solaris⟩]

/-- The configuration of the preset called exactly `name`. -/
def resolve? (name : String) : Option Config :=
  (all.find? (·.name == name)).map (·.config)

/-- The configuration of the preset called exactly `name`, or an error that keeps the name. -/
def require (name : String) : Except UnknownPreset Config :=
  match resolve? name with
  | some c => .ok c
  | none => .error ⟨name⟩

end Preset

end TargetAbi
