import TargetAbi.DecodeError
import TargetAbi.Json.Encoding

/-!
# Reading values of the library's types from JSON

Each decoder accepts the JSON form of its type and a few others: a choice without payload may also be
an object that maps its tag to `null`, and a record may be an array of its fields in declaration
order. In an object the fields may come in any order among unknown ones. Of several wrong values the
first one in the document is reported; a missing field is reported only if no value is wrong.
-/

set_option autoImplicit false

namespace TargetAbi

namespace Json

/-- What a value holds, for messages. -/
def found : Json → Found
  | null => .null
  | bool b => .boolean b
  | int n => .integer n
  | float p bits => .float p bits
  | str s => .string s
  | arr _ => .sequence
  | obj _ => .map

/-- A string. -/
def decodeString : Json → Except DecodeError String
  | str s => .ok s
  | v => .error (.wrongType v.found .string)

/-- A boolean. -/
def decodeBool : Json → Except DecodeError Bool
  | bool b => .ok b
  | v => .error (.wrongType v.found .boolean)

/-- An integer below `limit`. -/
def decodeNat (limit : Nat) (expected : Expected) : Json → Except DecodeError Nat
  | int n =>
    if 0 ≤ n ∧ n < limit then .ok n.toNat else .error (.wrongValue (.integer n) expected)
  | v => .error (.wrongType v.found expected)

/-- An integer of 32 bits. -/
def decodeWord32 (v : Json) : Except DecodeError UInt32 :=
  (v.decodeNat UInt32.size .word32).map UInt32.ofNat

/-- An integer of 64 bits. -/
def decodeWord64 (v : Json) : Except DecodeError UInt64 :=
  (v.decodeNat UInt64.size .word64).map UInt64.ofNat

/-- The member of `choices` with the given tag. -/
def choose {α : Type} (choices : List (String × α)) (tag : String) : Except DecodeError α :=
  match choices.lookup tag with
  | some a => .ok a
  | none => .error (.unknownVariant tag (choices.map (·.1)))

/-- The value of a choice without payloads. -/
def decodeChoice {α : Type} (choices : List (String × α)) : Json → Except DecodeError α
  | str s => choose choices s
  | obj [(k, v)] =>
    match choose choices k, v with
    | .error e, _ => .error e
    | .ok a, null => .ok a
    | .ok _, v => .error (.wrongType v.found .unit)
  | obj _ => .error (.wrongValue .map .singleKey)
  | v => .error (.wrongType v.found .stringOrMap)

/-- The fields checked in document order; the first wrong value is the error. -/
def checkFields (check : String → Json → Except DecodeError Unit) :
    List (String × Json) → Except DecodeError Unit
  | [] => .ok ()
  | (k, v) :: rest =>
    match check k v with
    | .ok () => checkFields check rest
    | .error e => .error e

/-- The value of the field `name`. -/
def field {α : Type} (fields : List (String × Json)) (name : String)
    (decode : Json → Except DecodeError α) : Except DecodeError α :=
  match fields.lookup name with
  | some v => decode v
  | none => .error (.missingField name)

/-- The element at place `i` of an array that stands for the record `name` with `size` fields. -/
def element {α : Type} (items : List Json) (name : String) (size i : Nat)
    (decode : Json → Except DecodeError α) : Except DecodeError α :=
  match items[i]? with
  | some v => decode v
  | none => .error (.tooShort items.length name size)

/-- Refuses an array with more elements than the record has fields. -/
def checkLength (items : List Json) (size : Nat) : Except DecodeError Unit :=
  if size < items.length then .error (.tooLong items.length) else .ok ()

/-- Drops a decoded value and keeps the error. -/
def check {α : Type} (r : Except DecodeError α) : Except DecodeError Unit := r.map fun _ => ()

end Json

/-- A basic type from its JSON form. -/
def BasicType.ofJson : Json → Except DecodeError BasicType :=
  Json.decodeChoice tags

/-- A linkage from its JSON form. -/
def Linkage.ofJson : Json → Except DecodeError Linkage :=
  Json.decodeChoice tags

/-- A signedness from its JSON form. -/
def Signedness.ofJson : Json → Except DecodeError Signedness :=
  Json.decodeChoice [("signed", .signed), ("unsigned", .unsigned)]

/-- A precision from its JSON form. -/
def FloatPrecision.ofJson : Json → Except DecodeError FloatPrecision :=
  Json.decodeChoice [("f32", .f32), ("f64", .f64)]

/-- A mangling scheme from its JSON form. -/
def ManglingScheme.ofJson : Json → Except DecodeError ManglingScheme :=
  Json.decodeChoice [("itanium", .itanium), ("msvc", .msvc)]

/-- An operating system family from its JSON form. -/
def OsFamily.ofJson (v : Json) : Except DecodeError OsFamily :=
  v.decodeString.bind OsFamily.decodeName

/-- The tags of type references. -/
def TypeRef.tags : List String := ["basic", "pointer", "named"]

/-- A type reference from its JSON form. -/
def TypeRef.ofJson : Json → Except DecodeError TypeRef
  | .str s =>
    if s ∈ tags then .error (.wrongType .unitVariant .newtypeVariant)
    else .error (.unknownVariant s tags)
  | .obj [(k, v)] =>
    if k = "basic" then (BasicType.ofJson v).map .basic
    else if k = "pointer" then (TypeRef.ofJson v).map .pointer
    else if k = "named" then v.decodeString.map .named
    else .error (.unknownVariant k tags)
  | .obj _ => .error (.wrongValue .map .singleKey)
  | v => .error (.wrongType v.found .stringOrMap)

namespace Config

/-- Whether the value of a field is of its kind. -/
def checkField (name : String) (v : Json) : Except DecodeError Unit :=
  if name = "os" then Json.check (OsFamily.ofJson v)
  else if name = "is-64bit" ∨ name = "is-lp64" then Json.check v.decodeBool
  else .ok ()

/-- The name of the record in messages. -/
def recordName : String := "TargetConfig"

/-- A configuration from its JSON form. -/
def ofJson : Json → Except DecodeError Config
  | .obj fields => do
    Json.checkFields checkField fields
    let os ← Json.field fields "os" OsFamily.ofJson
    let is64bit ← Json.field fields "is-64bit" Json.decodeBool
    let isLp64 ← Json.field fields "is-lp64" Json.decodeBool
    return { os, is64bit, isLp64 }
  | .arr items => do
    let os ← Json.element items recordName 3 0 OsFamily.ofJson
    let is64bit ← Json.element items recordName 3 1 Json.decodeBool
    let isLp64 ← Json.element items recordName 3 2 Json.decodeBool
    Json.checkLength items 3
    return { os, is64bit, isLp64 }
  | v => .error (.wrongType v.found (.record recordName))

end Config

namespace ExtendedFloatLayout

/-- Whether the value of a field is of its kind. -/
def checkField (name : String) (v : Json) : Except DecodeError Unit :=
  if name = "size" ∨ name = "padding" ∨ name = "alignment" then Json.check v.decodeWord32
  else .ok ()

/-- The name of the record in messages. -/
def recordName : String := "ExtendedFloatLayout"

/-- An extended float layout from its JSON form. -/
def ofJson : Json → Except DecodeError ExtendedFloatLayout
  | .obj fields => do
    Json.checkFields checkField fields
    let size ← Json.field fields "size" Json.decodeWord32
    let padding ← Json.field fields "padding" Json.decodeWord32
    let alignment ← Json.field fields "alignment" Json.decodeWord32
    return { size, padding, alignment }
  | .arr items => do
    let size ← Json.element items recordName 3 0 Json.decodeWord32
    let padding ← Json.element items recordName 3 1 Json.decodeWord32
    let alignment ← Json.element items recordName 3 2 Json.decodeWord32
    Json.checkLength items 3
    return { size, padding, alignment }
  | v => .error (.wrongType v.found (.record recordName))

end ExtendedFloatLayout

namespace AbiFacts

/-- The fields that are 32-bit integers. -/
def word32Fields : List String :=
  ["pointer-size", "class-info-size", "c-long-size", "c-long-double-size"]

/-- Whether the value of a field is of its kind. -/
def checkField (name : String) (v : Json) : Except DecodeError Unit :=
  if name ∈ word32Fields then Json.check v.decodeWord32
  else if name = "max-static-data-size" then Json.check v.decodeWord64
  else if name = "real" then Json.check (ExtendedFloatLayout.ofJson v)
  else if name = "cpp-exceptions" ∨ name = "reverse-cpp-overloads" then Json.check v.decodeBool
  else if name = "system-linkage" then Json.check (Linkage.ofJson v)
  else .ok ()

/-- The name of the record in messages. -/
def recordName : String := "AbiFacts"

/-- ABI facts from their JSON form. -/
def ofJson : Json → Except DecodeError AbiFacts
  | .obj fields => do
    Json.checkFields checkField fields
    let pointerSize ← Json.field fields "pointer-size" Json.decodeWord32
    let classInfoSize ← Json.field fields "class-info-size" Json.decodeWord32
    let maxStaticDataSize ← Json.field fields "max-static-data-size" Json.decodeWord64
    let cLongSize ← Json.field fields "c-long-size" Json.decodeWord32
    let cLongDoubleSize ← Json.field fields "c-long-double-size" Json.decodeWord32
    let real ← Json.field fields "real" ExtendedFloatLayout.ofJson
    let cppExceptions ← Json.field fields "cpp-exceptions" Json.decodeBool
    let reverseCppOverloads ← Json.field fields "reverse-cpp-overloads" Json.decodeBool
    let systemLinkage ← Json.field fields "system-linkage" Linkage.ofJson
    return { pointerSize, classInfoSize, maxStaticDataSize, cLongSize, cLongDoubleSize, real,
             cppExceptions, reverseCppOverloads, systemLinkage }
  | .arr items => do
    let pointerSize ← Json.element items recordName 9 0 Json.decodeWord32
    let classInfoSize ← Json.element items recordName 9 1 Json.decodeWord32
    let maxStaticDataSize ← Json.element items recordName 9 2 Json.decodeWord64
    let cLongSize ← Json.element items recordName 9 3 Json.decodeWord32
    let cLongDoubleSize ← Json.element items recordName 9 4 Json.decodeWord32
    let real ← Json.element items recordName 9 5 ExtendedFloatLayout.ofJson
    let cppExceptions ← Json.element items recordName 9 6 Json.decodeBool
    let reverseCppOverloads ← Json.element items recordName 9 7 Json.decodeBool
    let systemLinkage ← Json.element items recordName 9 8 Linkage.ofJson
    Json.checkLength items 9
    return { pointerSize, classInfoSize, maxStaticDataSize, cLongSize, cLongDoubleSize, real,
             cppExceptions, reverseCppOverloads, systemLinkage }
  | v => .error (.wrongType v.found (.record recordName))

end AbiFacts

end TargetAbi
