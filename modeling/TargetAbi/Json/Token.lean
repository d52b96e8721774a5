import TargetAbi.Json.Number

/-!
# JSON tokens

The lexical units of a JSON text: brackets, separators and scalars. `Token.ofChars?` splits a text
into its tokens and drops the blanks between them.
-/

set_option autoImplicit false

namespace TargetAbi.Json

/-- A lexical unit. -/
inductive Token where
  | openArray
  | closeArray
  | openObject
  | closeObject
  | comma
  | colon
  | string (s : String)
  /-- A scalar other than a string. -/
  | scalar (v : Json)

/-- The number of four hexadecimal digits. -/
def hexQuad? (a b c d : Char) : Option Nat := do
  let a ← Numeral.hexValue? a
  let b ← Numeral.hexValue? b
  let c ← Numeral.hexValue? c
  let d ← Numeral.hexValue? d
  some (((a * 16 + b) * 16 + c) * 16 + d)

/-- The character that a letter after a backslash stands for. -/
def unescapeChar? : Char → Option Char
  | '"' => some '"'
  | '\\' => some '\\'
  | '/' => some '/'
  | 'b' => some '\x08'
  | 'f' => some '\x0c'
  | 'n' => some '\n'
  | 'r' => some '\r'
  | 't' => some '\t'
  | _ => none

/-- A code unit pair beyond the basic plane. -/
def surrogatePair? (high low : Nat) : Option Char :=
  if 0xD800 ≤ high ∧ high < 0xDC00 ∧ 0xDC00 ≤ low ∧ low < 0xE000 then
    some (Char.ofNat (0x10000 + (high - 0xD800) * 0x400 + (low - 0xDC00)))
  else none

/-- The code point of a lone code unit, which a surrogate has none of. -/
def scalarValue? (n : Nat) : Option Char :=
  if 0xD800 ≤ n ∧ n < 0xE000 then none else some (Char.ofNat n)

/-- The contents of a string whose opening quote has been read, and what follows it. -/
def readString : List Char → Option (List Char × List Char)
  | [] => none
  | '"' :: rest => some ([], rest)
  | '\\' :: 'u' :: a :: b :: c :: d :: rest =>
    match hexQuad? a b c d with
    | none => none
    | some n =>
      match scalarValue? n, rest with
      | some ch, rest => (readString rest).map fun (s, r) => (ch :: s, r)
      | none, '\\' :: 'u' :: e :: f :: g :: h :: rest =>
        match (hexQuad? e f g h).bind (surrogatePair? n) with
        | some ch => (readString rest).map fun (s, r) => (ch :: s, r)
        | none => none
      | none, _ => none
  | '\\' :: c :: rest =>
    match unescapeChar? c with
    | some ch => (readString rest).map fun (s, r) => (ch :: s, r)
    | none => none
  | c :: rest =>
    if c.toNat < 0x20 ∨ c = '\\' then none
    else (readString rest).map fun (s, r) => (c :: s, r)

/-- Whether a character may stand between tokens. -/
def isBlank (c : Char) : Bool := c == ' ' || c == '\t' || c == '\n' || c == '\r'

/-- The token at the front of a text that starts with one, and what follows it. -/
def Token.first? : List Char → Option (Token × List Char)
  | '[' :: cs => some (.openArray, cs)
  | ']' :: cs => some (.closeArray, cs)
  | '\x7b' :: cs => some (.openObject, cs)
  | '\x7d' :: cs => some (.closeObject, cs)
  | ',' :: cs => some (.comma, cs)
  | ':' :: cs => some (.colon, cs)
  | '"' :: cs => (readString cs).map fun (s, r) => (.string (String.ofList s), r)
  | 'n' :: 'u' :: 'l' :: 'l' :: cs => some (.scalar .null, cs)
  | 't' :: 'r' :: 'u' :: 'e' :: cs => some (.scalar (.bool true), cs)
  | 'f' :: 'a' :: 'l' :: 's' :: 'e' :: cs => some (.scalar (.bool false), cs)
  | cs => (number? (cs.takeWhile isNumberChar)).map (.scalar ·, cs.dropWhile isNumberChar)

/-- The tokens of a text. A token that would not shorten the text ends the reading. -/
def Token.ofChars? (cs : List Char) : Option (List Token) :=
  match cs with
  | [] => some []
  | c :: rest =>
    if isBlank c then ofChars? rest
    else
      match Token.first? (c :: rest) with
      | none => none
      | some (t, rest') =>
        if rest'.length ≤ rest.length then (ofChars? rest').map (t :: ·) else none
termination_by cs.length

end TargetAbi.Json
