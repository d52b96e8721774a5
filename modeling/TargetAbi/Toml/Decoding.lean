import TargetAbi.Config
import TargetAbi.DecodeError
import TargetAbi.Toml.Document
import TargetAbi.Toml.Excerpt

/-!
# Reading configurations from TOML

A configuration is a document with the keys `os`, `is-64bit` and `is-lp64`, in any order among
others. The first key in the document that has a value of the wrong kind is the error; only if there
is none, a key that is missing. `Config.ofToml` reads a text, and its errors show the part of the text
that they belong to.
-/

set_option autoImplicit false

namespace TargetAbi

namespace Toml

/-- What a node holds, for messages. -/
def Node.found : Node → Found
  | .scalar (.string s) => .string s
  | .scalar (.integer n) => .integer n
  | .scalar (.float bits) => .float .f64 bits
  | .scalar (.boolean b) => .boolean b
  | .scalar (.dateTime _) => .map
  | .array _ => .sequence
  | .table _ _ => .map
  | .tables _ => .sequence

/-- A string. -/
def Node.decodeString : Node → Except DecodeError String
  | .scalar (.string s) => .ok s
  | v => .error (.wrongType v.found .string)

/-- A boolean. -/
def Node.decodeBool : Node → Except DecodeError Bool
  | .scalar (.boolean b) => .ok b
  | v => .error (.wrongType v.found .boolean)

/-- The operating system family that a string names. -/
def Node.decodeOs (v : Node) : Except DecodeError OsFamily :=
  v.decodeString.bind OsFamily.decodeName

/-- Why a document is no configuration, and the part of the text that shows it. -/
structure Rejection where
  span : Span
  cause : DecodeError
  deriving DecidableEq, Repr

/-- What is wrong with the document, without the part of the text; floats are in plain decimals. -/
def Rejection.detail (r : Rejection) : String := r.cause.message .plain

/-- Why a text is no configuration. -/
inductive ReadError where
  /-- The text is no TOML document. -/
  | malformed
  /-- The document in `text` is no configuration. -/
  | rejected (text : String) (rejection : Rejection)
  deriving DecidableEq, Repr

/-- The message for a rejected text; it ends its last line. -/
def ReadError.message : ReadError → String
  | malformed => "invalid TOML document\n"
  | rejected text r => renderError text r.span r.detail

end Toml

open Toml (Document Entries Node ReadError Rejection)

namespace Config

/-- Whether the value of a key is of its kind. -/
def checkEntry (name : String) (v : Node) : Except DecodeError Unit :=
  if name = "os" then v.decodeOs.map fun _ => ()
  else if name = "is-64bit" ∨ name = "is-lp64" then v.decodeBool.map fun _ => ()
  else .ok ()

/-- The first entry in the document with a value of the wrong kind is the error. -/
def checkEntries : Entries → Except Rejection Unit
  | [] => .ok ()
  | (name, span, v) :: rest =>
    match checkEntry name v with
    | .ok () => checkEntries rest
    | .error e => .error ⟨span, e⟩

/-- The value of the key `name`. A missing key is an error of the document up to the last value
before its first header. -/
def entry {α : Type} (d : Document) (name : String) (decode : Node → Except DecodeError α) :
    Except Rejection α :=
  match d.entries.find? name with
  | none => .error ⟨⟨0, d.rootStop⟩, .missingField name⟩
  | some (span, v) =>
    match decode v with
    | .ok a => .ok a
    | .error e => .error ⟨span, e⟩

/-- The configuration in a document. -/
def ofDocument (d : Document) : Except Rejection Config := do
  checkEntries d.entries
  let os ← entry d "os" Node.decodeOs
  let is64bit ← entry d "is-64bit" Node.decodeBool
  let isLp64 ← entry d "is-lp64" Node.decodeBool
  return { os, is64bit, isLp64 }

/-- The configuration in a text. -/
def ofToml (text : String) : Except ReadError Config :=
  match Document.ofText? text with
  | none => .error .malformed
  | some d =>
    match ofDocument d with
    | .ok c => .ok c
    | .error r => .error (.rejected text r)

end Config

end TargetAbi
