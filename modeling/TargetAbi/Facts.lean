import TargetAbi.Config
import TargetAbi.Linkage

/-!
# ABI facts

The constants of the binary interface that follow from a configuration: pointer and `long` widths,
the storage of the extended float, the size of a class metadata record, the cap on static data.
`AbiFacts.resolve` is defined for every configuration.
-/

set_option autoImplicit false

namespace TargetAbi

/-- Storage layout of the widest native floating-point type. -/
structure ExtendedFloatLayout where
  /-- Storage size in bytes, padding included. -/
  size : UInt32
  /-- Trailing padding bytes after the significant bits. -/
  padding : UInt32
  /-- Required alignment in bytes. -/
  alignment : UInt32
  deriving DecidableEq, Repr

namespace ExtendedFloatLayout

/-- The 80-bit value packed into 10 bytes. -/
def packed10 : ExtendedFloatLayout := ⟨10, 0, 2⟩

/-- The 80-bit value padded to 12 bytes. -/
def padded12 : ExtendedFloatLayout := ⟨12, 2, 4⟩

/-- The 80-bit value padded to 16 bytes. -/
def padded16 : ExtendedFloatLayout := ⟨16, 6, 16⟩

end ExtendedFloatLayout

/-- Binary-interface constants of one target. -/
structure AbiFacts where
  /-- Pointer size in bytes. -/
  pointerSize : UInt32
  /-- Size of the runtime class metadata record. -/
  classInfoSize : UInt32
  /-- Largest single static data object. -/
  maxStaticDataSize : UInt64
  /-- Size of C `long`. -/
  cLongSize : UInt32
  /-- Size of C `long double`. -/
  cLongDoubleSize : UInt32
  /-- Layout of the extended-precision float. -/
  real : ExtendedFloatLayout
  /-- Whether C++ exceptions can cross the boundary. -/
  cppExceptions : Bool
  /-- Whether C++ overloads are emitted in reverse declaration order. -/
  reverseCppOverloads : Bool
  /-- Linkage of declarations with system linkage. -/
  systemLinkage : Linkage
  deriving DecidableEq, Repr

/-- Linkage of declarations with system linkage. -/
def Config.systemLinkage (c : Config) : Linkage :=
  match c.os with
  | .windows => .windows
  | _ => .c

namespace AbiFacts

/-- Storage of the extended float. -/
def extendedFloat (c : Config) : ExtendedFloatLayout :=
  match c.os with
  | .windows => .packed10
  | .macos => .padded16
  | .linux | .freebsd | .solaris => if c.is64bit then .padded16 else .padded12
  | .openbsd | .dragonflybsd => .padded12

/-- Every configuration stores extended floats in one of three ways. -/
theorem extendedFloat_mem (c : Config) :
    extendedFloat c ∈ [.packed10, .padded12, .padded16] := by
  obtain ⟨os, is64bit, isLp64⟩ := c
  cases os <;> cases is64bit <;> simp [extendedFloat]

/-- Size of C `long`. -/
def longSize (c : Config) : UInt32 :=
  match c.os with
  | .linux | .freebsd | .solaris | .macos => if c.is64bit then 8 else 4
  | .windows | .openbsd | .dragonflybsd => 4

/-- Size of C `long double`; 64-bit Windows has no extended precision for it. -/
def longDoubleSize (c : Config) : UInt32 :=
  if c.is64bit && c.os == .windows then 8 else (extendedFloat c).size

/-- Cap on one static data object: 31 bits, and 16 MiB on Windows with four-byte pointers. -/
def staticDataCap (c : Config) : UInt64 :=
  if c.os == .windows && !c.isLp64 then 0x1000000 else 0x7FFFFFFF

/-- Whether C++ exceptions can cross the boundary. -/
def catchesCppExceptions (c : Config) : Bool :=
  match c.os with
  | .linux | .freebsd | .macos => true
  | _ => false

/-- The facts of a configuration. -/
def resolve (c : Config) : AbiFacts where
  pointerSize := if c.isLp64 then 8 else 4
  classInfoSize := if c.isLp64 then 0x98 else 0x4C
  maxStaticDataSize := staticDataCap c
  cLongSize := longSize c
  cLongDoubleSize := longDoubleSize c
  real := extendedFloat c
  cppExceptions := catchesCppExceptions c
  reverseCppOverloads := c.os == .windows && !c.is64bit
  systemLinkage := c.systemLinkage

end AbiFacts

end TargetAbi
