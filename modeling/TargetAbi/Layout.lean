import TargetAbi.Facts
import TargetAbi.TypeRef

/-!
# Layout

The required alignment of basic types and of type references, the size of native locks, and the type
in which a `va_list` is passed. A basic type without an alignment rule of its own is aligned to its
size; only basic types have a target-defined alignment.
-/

set_option autoImplicit false

namespace TargetAbi

/-- The alignment of a type that is not basic was asked for. -/
structure NotBasic where
  type : TypeRef
  deriving DecidableEq, Repr

/-- The message for a type without an alignment. -/
def NotBasic.message (e : NotBasic) : String :=
  "alignment requested for non-basic type `" ++ e.type.text ++ "`"

/-- Required alignment of a basic type, if the size it falls back to does not overflow: the extended
family takes the target's, eight-byte units are aligned to the register width on POSIX systems, and
every other type to its own size. -/
def alignmentOf? (c : Config) (facts : AbiFacts) (t : BasicType) : Option UInt32 :=
  match t with
  | .float80 | .imaginary80 | .complex80 => some facts.real.alignment
  | .complex32 => if c.os.isPosix then some 4 else t.sizeWith facts.real.size
  | .int64 | .uns64 | .float64 | .imaginary64 | .complex64 =>
    if c.os.isPosix then some (if c.is64bit then 8 else 4) else t.sizeWith facts.real.size
  | t => t.sizeWith facts.real.size

/-- The one type whose size can overflow is not aligned to its size. -/
theorem isSome_alignmentOf? (c : Config) (facts : AbiFacts) (t : BasicType) :
    (alignmentOf? c facts t).isSome := by
  cases t
  case complex32 | int64 | uns64 | float64 | imaginary64 | complex64 =>
    simp only [alignmentOf?]
    split <;> rfl
  all_goals rfl

/-- Required alignment of a basic type. -/
def alignmentOf (c : Config) (facts : AbiFacts) (t : BasicType) : UInt32 :=
  (alignmentOf? c facts t).get (isSome_alignmentOf? c facts t)

/-- Required alignment of a type reference. -/
def alignmentOfType (c : Config) (facts : AbiFacts) : TypeRef → Except NotBasic UInt32
  | .basic t => .ok (alignmentOf c facts t)
  | t => .error ⟨t⟩

/-- Tag of the record that a 64-bit POSIX `va_list` holds. -/
def vaListTag : String := "__va_list_tag"

namespace Config

/-- Size in bytes of the native critical section or mutex. Locks are managed by a runtime and stored
as opaque bytes, so nothing else about them matters. -/
def criticalSectionSize (c : Config) : UInt32 :=
  match c.os with
  | .windows => if c.isLp64 then 40 else 24
  | .linux => if c.isLp64 then 40 else if c.is64bit then 32 else 24
  | .freebsd | .openbsd | .dragonflybsd => if c.isLp64 then 8 else 4
  | .macos => if c.isLp64 then 64 else 44
  | .solaris => 24

/-- The type in which a `va_list` argument is passed. On 64-bit POSIX systems `va_list` is an array
of one tagged record, so a pointer to that record is passed; elsewhere it is a pointer to bytes. -/
def vaListType (c : Config) : TypeRef :=
  if c.os.isPosix && c.is64bit then .pointer (.named vaListTag) else .pointer (.basic .char)

end Config

end TargetAbi
