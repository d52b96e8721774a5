import TargetAbi.Toml

/-!
# Opening and filling tables

A key is a path from a table to a table below it with a name in that one. `Entries.within` follows a
path and edits the table at its end. Headers may go through every table that is not written between
braces, dotted keys only through tables that have no header of their own.
-/

set_option autoImplicit false

namespace TargetAbi.Toml.Entries

/-- The entries `es` with the table at the end of a path edited. A table on the path has to be
admitted; of an array of tables the last element is meant; a missing table is created. `origin` is
the origin of the table that holds `es`. -/
def within (created : Origin) (admits : Origin → Bool)
    (edit : Origin → Entries → Option Entries) : List Key → Origin → Entries → Option Entries
  | [], origin, es => edit origin es
  | k :: path, _, es =>
    match es.find? k.name with
    | none =>
      (within created admits edit path created []).map fun sub =>
        es ++ [(k.name, k.span, .table created sub)]
    | some (span, .table origin sub) =>
      if admits origin then
        (within created admits edit path origin sub).map fun sub =>
          es.replace k.name span (.table origin sub)
      else none
    | some (span, .tables elements) =>
      match elements.getLast? with
      | some last =>
        (within created admits edit path .header last).map fun sub =>
          es.replace k.name span (.tables (elements.dropLast ++ [sub]))
      | none => none
    | some _ => none

/-- Whether a dotted key may go through a table. -/
def admitsDotted : Origin → Bool
  | .parent | .dotted => true
  | .header | .inlined => false

/-- Whether a header may go through a table. -/
def admitsHeader : Origin → Bool
  | .inlined => false
  | .header | .parent | .dotted => true

/-- The entries with a key assigned. The key must be new, and its parts before the last one have to
lead to a table that dotted keys alone make up. -/
def assign (a : Assignment) (es : Entries) : Option Entries :=
  within .dotted admitsDotted
    (fun origin es =>
      if (origin = .dotted ↔ a.path ≠ []) then es.add? a.key.name a.span a.value else none)
    a.path .header es

/-- The entries with a table opened by a header. A table that only headers of tables below it
mention is the one that is opened, and moves to the end. -/
def openTable (key : Key) (span : Span) (es : Entries) : Option Entries :=
  match es.find? key.name with
  | none => some (es ++ [(key.name, span, .table .header [])])
  | some (_, .table .parent sub) =>
    some (es.erase key.name ++ [(key.name, span, .table .header sub)])
  | some _ => none

/-- The entries with a new element of an array of tables. The array reaches from its first header
to its last. -/
def openElement (key : Key) (span : Span) (es : Entries) : Option Entries :=
  match es.find? key.name with
  | none => some (es ++ [(key.name, span, .tables [[]])])
  | some (first, .tables elements) =>
    some (es.replace key.name ⟨first.start, span.stop⟩ (.tables (elements ++ [[]])))
  | some _ => none

/-- The entries with the place of `name` extended to `stop`. -/
def extendTo (name : String) (stop : Nat) (es : Entries) : Entries :=
  es.map fun (k, span, node) => if k = name then (k, ⟨span.start, stop⟩, node) else (k, span, node)

end TargetAbi.Toml.Entries
