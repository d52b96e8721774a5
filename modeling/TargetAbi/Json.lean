import TargetAbi.Binary.Format

/-!
# JSON values

A JSON document as a tree. Object fields keep the order in which they stand. A number is an integer
or a floating-point pattern; the two are told apart by how they are written.
-/

set_option autoImplicit false

namespace TargetAbi

/-- A JSON value. -/
inductive Json where
  | null
  | bool (b : Bool)
  | int (n : Int)
  | float (precision : FloatPrecision) (bits : UInt64)
  | str (s : String)
  | arr (items : List Json)
  | obj (fields : List (String × Json))

namespace Json

/-- The object fields with `key` bound to `value`: a field of that name keeps its place and gets the
value, and a new one goes to the end. -/
def put (key : String) (value : Json) : List (String × Json) → List (String × Json)
  | [] => [(key, value)]
  | (k, v) :: rest => if k = key then (k, value) :: rest else (k, v) :: put key value rest

/-- The keys of an object, in order. -/
def keys (fields : List (String × Json)) : List String := fields.map (·.1)

end Json

end TargetAbi
