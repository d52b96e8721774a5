import TargetAbi.Facts

/-!
# Foreign symbols

Names of C++ symbols are mangled by one of two algorithms, which are supplied from outside; the
target chooses one of them once. `prefixName` adds what the object format puts in front of an
already mangled name.
-/

set_option autoImplicit false

namespace TargetAbi

/-- The family of C++ name mangling that a platform's toolchain uses. -/
inductive ManglingScheme where
  | itanium
  | msvc
  deriving DecidableEq, Repr

namespace ManglingScheme

/-- The scheme of an operating system family. -/
def ofOs : OsFamily → ManglingScheme
  | .windows => .msvc
  | .linux | .macos | .freebsd | .openbsd | .dragonflybsd | .solaris => .itanium

/-- The name of a scheme. -/
def name : ManglingScheme → String
  | itanium => "itanium"
  | msvc => "msvc"

/-- The tag of a scheme in data files. -/
def tag : ManglingScheme → String
  | itanium => "itanium"
  | msvc => "msvc"

/-- The name of a scheme as a constructor of its type. -/
def constructorName : ManglingScheme → String
  | itanium => "Itanium"
  | msvc => "Msvc"

end ManglingScheme

/-- A name mangling algorithm over the symbol type `σ`. -/
structure Mangler (σ : Type) where
  /-- Mangled name of a symbol with C++ linkage. -/
  mangle : σ → String
  /-- Mangled name of the type-info object of a class. -/
  mangleTypeInfo : σ → String

/-- The mangler selected for a target, with the scheme it belongs to. -/
structure ForeignLinkage (σ : Type) where
  scheme : ManglingScheme
  mangler : Mangler σ

namespace ForeignLinkage

variable {σ : Type}

/-- The choice between two manglers, made once from the operating system. -/
def select (c : Config) (itanium msvc : Mangler σ) : ForeignLinkage σ :=
  let scheme := ManglingScheme.ofOs c.os
  ⟨scheme, match scheme with
    | .itanium => itanium
    | .msvc => msvc⟩

/-- Mangled name of a symbol. -/
def mangle (f : ForeignLinkage σ) (symbol : σ) : String :=
  f.mangler.mangle symbol

/-- Mangled name of a class's type-info object. -/
def mangleTypeInfo (f : ForeignLinkage σ) (symbol : σ) : String :=
  f.mangler.mangleTypeInfo symbol

/-- The selection for debugging output, without the mangler itself. -/
def debugText (f : ForeignLinkage σ) : String :=
  "ForeignLinkage \x7b scheme: " ++ f.scheme.constructorName ++ ", .. \x7d"

end ForeignLinkage

/-- The byte of an underscore. -/
def underscore : UInt8 := 95

/-- An already mangled name with what the target puts in front of it: Mach-O writes an underscore
before C++ symbols. -/
def prefixName (c : Config) (linkage : Linkage) (name : List UInt8) : List UInt8 :=
  if linkage = .cpp ∧ c.os = .macos then underscore :: name else name

/-- The name that a toolchain gives to a basic type of its own; no target has any. -/
def vendorTypeName (_ : Config) (_ : BasicType) : Option String := none

end TargetAbi
