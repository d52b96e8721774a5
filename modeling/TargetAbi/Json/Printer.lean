import TargetAbi.Binary.Text
import TargetAbi.Json

/-!
# Writing JSON

`Json.compact` writes a value without any blanks, `Json.pretty` with one field or item on each line,
indented by two blanks for each level. In a string only the quote, the backslash and the controls
below U+0020 are escaped.
-/

set_option autoImplicit false

namespace TargetAbi.Json

/-- The form of a character in a string. -/
def escapeChar (c : Char) : List Char :=
  if c = '"' then ['\\', '"']
  else if c = '\\' then ['\\', '\\']
  else if c = '\x08' then ['\\', 'b']
  else if c = '\t' then ['\\', 't']
  else if c = '\n' then ['\\', 'n']
  else if c = '\x0c' then ['\\', 'f']
  else if c = '\r' then ['\\', 'r']
  else if c.toNat < 0x20 then
    ['\\', 'u', '0', '0', Nat.digitChar (c.toNat / 16), Nat.digitChar (c.toNat % 16)]
  else [c]

/-- The characters of a string, in quotes. -/
def stringChars (s : String) : List Char :=
  '"' :: s.toList.flatMap escapeChar ++ ['"']

/-- How the parts of a value are set apart. -/
inductive Spacing where
  | compact
  | pretty
  deriving DecidableEq, Repr

/-- What stands before a field or item at a depth. -/
def Spacing.lineBreak : Spacing → Nat → List Char
  | compact, _ => []
  | pretty, depth => '\n' :: List.replicate (2 * depth) ' '

/-- What stands between a key and its value. -/
def Spacing.colon : Spacing → List Char
  | compact => [':']
  | pretty => [':', ' ']

mutual

/-- The characters of a value at a depth. -/
def chars (s : Spacing) (depth : Nat) : Json → List Char
  | null => "null".toList
  | bool true => "true".toList
  | bool false => "false".toList
  | int n => (Numeral.signedDecimal n).toList
  | float p bits => Binary.NumberStyle.json.render p.format bits.toNat
  | str t => stringChars t
  | arr [] => ['[', ']']
  | arr (v :: vs) =>
    '[' :: s.lineBreak (depth + 1) ++ chars s (depth + 1) v ++ itemChars s (depth + 1) vs ++
      s.lineBreak depth ++ [']']
  | obj [] => ['\x7b', '\x7d']
  | obj ((k, v) :: fs) =>
    '\x7b' :: s.lineBreak (depth + 1) ++ stringChars k ++ s.colon ++ chars s (depth + 1) v ++
      fieldChars s (depth + 1) fs ++ s.lineBreak depth ++ ['\x7d']

/-- The characters of the items after the first. -/
def itemChars (s : Spacing) (depth : Nat) : List Json → List Char
  | [] => []
  | v :: vs => ',' :: s.lineBreak depth ++ chars s depth v ++ itemChars s depth vs

/-- The characters of the fields after the first. -/
def fieldChars (s : Spacing) (depth : Nat) : List (String × Json) → List Char
  | [] => []
  | (k, v) :: fs =>
    ',' :: s.lineBreak depth ++ stringChars k ++ s.colon ++ chars s depth v ++
      fieldChars s depth fs

end

/-- The text of a value without blanks. -/
def compact (v : Json) : String := String.ofList (v.chars .compact 0)

/-- The text of a value with one field or item on each line. -/
def pretty (v : Json) : String := String.ofList (v.chars .pretty 0)

end TargetAbi.Json
