import TargetAbi.Binary.Text
import TargetAbi.Platform
import TargetAbi.Text.Quoted

/-!
# Decoding errors

What can be wrong with a document that is read as a value of a type: it holds something of another
kind, a number out of range, too few or too many elements, an unknown name, or it lacks a field. The
same causes arise for every document format. Their messages differ in one thing only: each format
has a style of its own for the numbers that it shows.
-/

set_option autoImplicit false

namespace TargetAbi

/-- What a document holds at a place. -/
inductive Found where
  | boolean (b : Bool)
  | integer (n : Int)
  | float (precision : FloatPrecision) (bits : UInt64)
  | string (s : String)
  | null
  | sequence
  | map
  /-- A variant's name without the payload that it needs. -/
  | unitVariant
  deriving DecidableEq, Repr

/-- What was expected at a place. -/
inductive Expected where
  | string
  | boolean
  | word32
  | word64
  | unit
  | stringOrMap
  | singleKey
  | newtypeVariant
  | record (name : String)
  deriving DecidableEq, Repr

/-- Why a document is no value of a type. -/
inductive DecodeError where
  | wrongType (found : Found) (expected : Expected)
  | wrongValue (found : Found) (expected : Expected)
  /-- An array has `count` elements where the record `name` has `fields`. -/
  | tooShort (count : Nat) (name : String) (fields : Nat)
  | tooLong (count : Nat)
  | missingField (name : String)
  | unknownVariant (name : String) (known : List String)
  | unknownOs (cause : UnknownOs)
  deriving DecidableEq, Repr

/-- What was found, in words, with floats written in the style `numbers`. -/
def Found.text (numbers : Binary.NumberStyle) : Found → String
  | boolean b => "boolean `" ++ (if b then "true" else "false") ++ "`"
  | integer n => "integer `" ++ Numeral.signedDecimal n ++ "`"
  | float p bits =>
    "floating point `" ++ String.ofList (numbers.render p.format bits.toNat) ++ "`"
  | string s => "string " ++ Text.quoted s
  | null => "null"
  | sequence => "sequence"
  | map => "map"
  | unitVariant => "unit variant"

/-- What was expected, in words. -/
def Expected.text : Expected → String
  | string => "a string"
  | boolean => "a boolean"
  | word32 => "u32"
  | word64 => "u64"
  | unit => "unit"
  | stringOrMap => "string or map"
  | singleKey => "map with a single key"
  | newtypeVariant => "newtype variant"
  | record name => "struct " ++ name

/-- The names of a choice: two are joined by "or", more are listed. -/
def variantList : List String → String
  | [] => "no variants"
  | [a] => "`" ++ a ++ "`"
  | [a, b] => "`" ++ a ++ "` or `" ++ b ++ "`"
  | names => "one of " ++ String.intercalate ", " (names.map fun n => "`" ++ n ++ "`")

/-- The message for a rejected document whose format writes floats in the style `numbers`. -/
def DecodeError.message (numbers : Binary.NumberStyle) : DecodeError → String
  | wrongType f e => "invalid type: " ++ f.text numbers ++ ", expected " ++ e.text
  | wrongValue f e => "invalid value: " ++ f.text numbers ++ ", expected " ++ e.text
  | tooShort count name fields =>
    "invalid length " ++ Numeral.decimal count ++ ", expected struct " ++ name ++ " with " ++
      Numeral.decimal fields ++ " elements"
  | tooLong count =>
    "invalid length " ++ Numeral.decimal count ++ ", expected fewer elements in array"
  | missingField name => "missing field `" ++ name ++ "`"
  | unknownVariant name known => "unknown variant `" ++ name ++ "`, expected " ++ variantList known
  | unknownOs cause => cause.message

/-- The operating system family that a document names; an unknown name is an error of the
document. -/
def OsFamily.decodeName (s : String) : Except DecodeError OsFamily :=
  match OsFamily.parse s with
  | .ok os => .ok os
  | .error e => .error (.unknownOs e)

end TargetAbi
