import TargetAbi.BasicType

/-!
# Type references

A minimal language for the types that cross a binary interface: a basic type, an opaque type known
by its tag, or a pointer to one of these. The text of a reference is that of its innermost type
followed by one `*` for each pointer.
-/

set_option autoImplicit false

namespace TargetAbi

/-- A reference to a type. -/
inductive TypeRef where
  /-- A basic scalar type. -/
  | basic (type : BasicType)
  /-- A pointer to another type. -/
  | pointer (target : TypeRef)
  /-- An opaque type known only by its tag. -/
  | named (tag : String)
  deriving DecidableEq, Repr

namespace TypeRef

/-- The reference wrapped in `n` pointers. -/
def pointers : Nat → TypeRef → TypeRef
  | 0, t => t
  | n + 1, t => pointers n (pointer t)

/-- The text of a reference. -/
def text : TypeRef → String
  | basic t => t.name
  | pointer t => t.text ++ "*"
  | named tag => tag

end TypeRef

end TargetAbi
