import TargetAbi.Toml.Statement

/-!
# The document that statements make up

Statements are carried out one after the other on a tree of tables. A header decides to which table
the keys after it belong; before the first header they belong to the document itself.
-/

set_option autoImplicit false

namespace TargetAbi.Toml

/-- A document of which a number of statements have been carried out. -/
structure Draft where
  document : Document
  /-- The table whose header came last, as a path from the document. -/
  current : List Key

namespace Draft

/-- The document without statements. -/
def empty : Draft := ⟨⟨[], 0⟩, []⟩

/-- The draft after a key was assigned. A table that stands directly in the document reaches to the
end of the last value assigned in it. -/
def assign (d : Draft) (a : Assignment) : Option Draft :=
  let edited := d.document.entries.within .parent Entries.admitsHeader
    (fun _ es => es.assign a) d.current .header
  edited.map fun es =>
    match d.current with
    | [] => { d with document := ⟨es, a.span.stop⟩ }
    | [k] => { d with document := ⟨es.extendTo k.name a.span.stop, d.document.rootStop⟩ }
    | _ => { d with document := ⟨es, d.document.rootStop⟩ }

/-- The draft after a header; `edit` opens what the header names in the table at the end of
`path`. -/
def openAt (d : Draft) (path : List Key) (key : Key) (edit : Entries → Option Entries) :
    Option Draft :=
  let edited := d.document.entries.within .parent Entries.admitsHeader (fun _ es => edit es)
    path .header
  edited.map fun es => ⟨⟨es, d.document.rootStop⟩, path ++ [key]⟩

/-- The draft after one more statement. -/
def step (d : Draft) : Statement → Option Draft
  | .assign a => d.assign a
  | .table path key span => d.openAt path key (Entries.openTable key span)
  | .element path key span => d.openAt path key (Entries.openElement key span)

end Draft

namespace Document

/-- The document that statements make up. -/
def ofStatements? (statements : List Statement) : Option Document :=
  (statements.foldlM Draft.step Draft.empty).map Draft.document

/-- The document that a text is. -/
def ofText? (text : String) : Option Document :=
  (Statement.ofText? text).bind ofStatements?

end Document

end TargetAbi.Toml
