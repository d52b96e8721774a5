import TargetAbi.FloatProperties
import TargetAbi.Layout
import TargetAbi.Symbol
import TargetAbi.Vector

/-!
# Targets

The resolved description of a target: its configuration with everything derived from it. A target
is resolved once and only read afterwards.
-/

set_option autoImplicit false

namespace TargetAbi

/-- No configuration stores an extended float in more than sixteen bytes. -/
theorem AbiFacts.size_real_resolve_le (c : Config) : (resolve c).real.size.toNat ≤ 16 := by
  show (extendedFloat c).size.toNat ≤ 16
  have hlayout := extendedFloat_mem c
  simp only [List.mem_cons, List.not_mem_nil, or_false] at hlayout
  rcases hlayout with h | h | h
  all_goals rw [h]; decide

/-- A resolved target. -/
structure Target where
  config : Config
  facts : AbiFacts
  float : FloatCategories
  /-- The facts are those of the configuration. -/
  facts_eq : facts = .resolve config
  deriving DecidableEq, Repr

namespace Target

/-- The target of a configuration. -/
def ofConfig (c : Config) : Target := ⟨c, .resolve c, .host, rfl⟩

/-- Every basic type has a size on a target. -/
theorem isSome_sizeWith (t : Target) (type : BasicType) :
    (type.sizeWith t.facts.real.size).isSome := by
  have hreal := AbiFacts.size_real_resolve_le t.config
  rw [← t.facts_eq] at hreal
  exact type.isSome_sizeWith (Nat.lt_of_le_of_lt (Nat.mul_le_mul_right 2 hreal) (by decide))

/-- Size in bytes of a basic type. -/
def sizeOf (t : Target) (type : BasicType) : UInt32 :=
  (type.sizeWith t.facts.real.size).get (t.isSome_sizeWith type)

/-- Alignment of a basic type. -/
def alignmentOf (t : Target) (type : BasicType) : UInt32 :=
  TargetAbi.alignmentOf t.config t.facts type

/-- Alignment of a type reference. -/
def alignmentOfType (t : Target) (type : TypeRef) : Except NotBasic UInt32 :=
  TargetAbi.alignmentOfType t.config t.facts type

/-- Alignment of a basic type as a field of an aggregate, which is that of the type itself. -/
def fieldAlignment (t : Target) (type : BasicType) : UInt32 := t.alignmentOf type

/-- Linkage of declarations with system linkage. -/
def systemLinkage (t : Target) : Linkage := t.facts.systemLinkage

/-- The mangling scheme of the target. -/
def manglingScheme (t : Target) : ManglingScheme := .ofOs t.config.os

/-- The choice between two manglers for the target. -/
def foreignLinkage {σ : Type} (t : Target) (itanium msvc : Mangler σ) : ForeignLinkage σ :=
  .select t.config itanium msvc

/-- An already mangled name with what the target puts in front of it. -/
def prefixName (t : Target) (linkage : Linkage) (name : List UInt8) : List UInt8 :=
  TargetAbi.prefixName t.config linkage name

end Target

end TargetAbi
