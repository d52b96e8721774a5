import TargetAbi.Binary.Format

/-!
# TOML documents

A TOML document as a tree of keys. Every entry of a table knows the part of the text that it comes
from, so that an error can point to it: the text of a value, the header of a table, or the key through
which a table came about without a header of its own.

Two tables with the same entries can differ in how they were opened, and TOML allows further keys
only for some of them; `Origin` records this.
-/

set_option autoImplicit false

namespace TargetAbi.Toml

/-- A part of a text, from the character number `start` up to and without `stop`. -/
structure Span where
  start : Nat
  stop : Nat
  deriving DecidableEq, Repr

/-- A value without parts. -/
inductive Scalar where
  | string (s : String)
  | integer (n : Int)
  /-- A double-precision pattern. -/
  | float (bits : UInt64)
  | boolean (b : Bool)
  /-- A date, a time, or both, as written. -/
  | dateTime (text : String)
  deriving DecidableEq, Repr

/-- How a table came about. -/
inductive Origin where
  /-- By a header of its own. -/
  | header
  /-- As a part of the name in another table's header. -/
  | parent
  /-- As a part of a dotted key. -/
  | dotted
  /-- As a value between braces. -/
  | inlined
  deriving DecidableEq, Repr

/-- What a key of a document stands for. -/
inductive Node where
  | scalar (value : Scalar)
  | array (items : List Node)
  | table (origin : Origin) (entries : List (String × Span × Node))
  /-- The elements of an array of tables, each opened by a header in double brackets. -/
  | tables (elements : List (List (String × Span × Node)))

/-- The entries of a table, in the order in which their keys first appear. -/
abbrev Entries := List (String × Span × Node)

/-- A key and where it stands. -/
structure Key where
  name : String
  span : Span
  deriving DecidableEq, Repr

/-- A key with its value: the parts of the key before the last one, the last one, and the place of
the value. -/
structure Assignment where
  path : List Key
  key : Key
  span : Span
  value : Node

/-- A document. -/
structure Document where
  entries : Entries
  /-- Where the last value before the first header ends, or zero. -/
  rootStop : Nat

namespace Entries

/-- The span and node of a key. -/
def find? (es : Entries) (name : String) : Option (Span × Node) := es.lookup name

/-- The entries with what `name` stands for replaced. -/
def replace (es : Entries) (name : String) (span : Span) (node : Node) : Entries :=
  es.map fun e => if e.1 = name then (name, span, node) else e

/-- The entries without `name`. -/
def erase (es : Entries) (name : String) : Entries := es.filter fun e => e.1 ≠ name

/-- The entries with a new key at the end, unless the key is there already. -/
def add? (es : Entries) (name : String) (span : Span) (node : Node) : Option Entries :=
  match es.find? name with
  | some _ => none
  | none => some (es ++ [(name, span, node)])

end Entries

end TargetAbi.Toml
