import TargetAbi.Toml.Entries
import TargetAbi.Toml.Lexeme

/-!
# Statements of a TOML document

A document is a list of statements, one a line apart from values that span lines: keys with their
values, headers of tables, and headers of the elements of arrays of tables. `statements?` reads them
all. Values within brackets are read by recursion on the depth that is left for brackets.
-/

set_option autoImplicit false

namespace TargetAbi.Toml

/-- A reader of one value. -/
abbrev ValueReader := Rest → Option (Node × Rest)

/-! ## Values -/

/-- A value without parts. -/
def readLeaf (cs : Rest) : Option (Node × Rest) :=
  ((readString cs).map fun (s, r) => (.scalar (.string s), r)).or
    ((readScalar cs).map fun (v, r) => (.scalar v, r))

/-- The items of an array up to its closing bracket. A comma may follow the last one. -/
def readItems (readItem : ValueReader) (cs : Rest) : Option (List Node × Rest) :=
  match skipTrivia false cs with
  | none => none
  | some (']' :: r) => some ([], r)
  | some r =>
    match readItem r with
    | none => none
    | some (v, r) =>
      match skipTrivia false r with
      | some (']' :: r) => some ([v], r)
      | some (',' :: r) =>
        if r.length < cs.length then (readItems readItem r).map fun (vs, t) => (v :: vs, t)
        else none
      | _ => none
termination_by cs.length

/-- A key, an equals sign and a value in a text of `size` characters. -/
def readAssignment (size : Nat) (readItem : ValueReader) (cs : Rest) :
    Option (Assignment × Rest) := do
  let ((path, key), r) ← readKey size cs
  let r ← after? '=' r
  let start := skipBlanks r
  let (value, r) ← readItem start
  return (⟨path, key, ⟨size - start.length, size - r.length⟩, value⟩, r)

/-- One or more assignments between commas up to the closing brace. -/
def readAssignments (size : Nat) (readItem : ValueReader) (cs : Rest) :
    Option (List Assignment × Rest) :=
  match readAssignment size readItem cs with
  | none => none
  | some (a, r) =>
    match skipBlanks r with
    | '\x7d' :: r => some ([a], r)
    | ',' :: r =>
      if r.length < cs.length then
        (readAssignments size readItem r).map fun (rest, t) => (a :: rest, t)
      else none
    | _ => none
termination_by cs.length

/-- The entries of a table between braces, after the opening one. -/
def readInline (size : Nat) (readItem : ValueReader) (cs : Rest) : Option (Entries × Rest) :=
  match skipBlanks cs with
  | '\x7d' :: r => some ([], r)
  | _ => do
    let (assignments, r) ← readAssignments size readItem cs
    let entries ← assignments.foldlM (fun es a => Entries.assign a es) []
    return (entries, r)

/-- A value in which brackets are nested at most `depth` deep. -/
def readValue (size : Nat) : (depth : Nat) → ValueReader
  | depth + 1, '[' :: r =>
    (readItems (readValue size depth) r).map fun (items, t) => (.array items, t)
  | depth + 1, '\x7b' :: r =>
    (readInline size (readValue size depth) r).map fun (es, t) => (.table .inlined es, t)
  | _, cs => readLeaf cs

/-! ## Statements -/

/-- A statement of a document. -/
inductive Statement where
  | assign (assignment : Assignment)
  /-- The header of the table `key` at the end of a path. -/
  | table (path : List Key) (key : Key) (span : Span)
  /-- The header of a further element of the array `key` at the end of a path. -/
  | element (path : List Key) (key : Key) (span : Span)

/-- A statement in a text of `size` characters, without the blanks in front of it. -/
def readStatement (size : Nat) (cs : Rest) : Option (Statement × Rest) :=
  match cs with
  | '[' :: '[' :: r => do
    let ((path, key), r) ← readKey size r
    let r ← after? ']' r
    let r ← after? ']' r
    return (.element path key ⟨size - cs.length, size - r.length⟩, r)
  | '[' :: r => do
    let ((path, key), r) ← readKey size r
    let r ← after? ']' r
    return (.table path key ⟨size - cs.length, size - r.length⟩, r)
  | cs => do
    let (a, r) ← readAssignment size (readValue size (nestingLimit - 1)) cs
    return (.assign a, r)

/-- The statements of a text of `size` characters, of which `cs` is left. A line holds one
statement, or nothing; a comment may end it. -/
def statements? (size : Nat) (cs : Rest) : Option (List Statement) :=
  if cs = [] then some []
  else
    match endLine cs with
    | some r => if r.length < cs.length then statements? size r else none
    | none =>
      match readStatement size (skipBlanks cs) with
      | none => none
      | some (s, r) =>
        match endLine r with
        | none => none
        | some r => if r.length < cs.length then (statements? size r).map (s :: ·) else none
termination_by cs.length

/-- The text without a byte order mark in front. -/
def skipMark : Rest → Rest
  | '\ufeff' :: r => r
  | cs => cs

/-- The statements of a text. -/
def Statement.ofText? (text : String) : Option (List Statement) :=
  statements? text.length (skipMark text.toList)

end TargetAbi.Toml
