import TargetAbi.Binary.Rounding
import TargetAbi.Text.Numeral

/-!
# Reading floating-point literals

A literal is an optional sign and then either `inf`, `infinity` or `nan` in any ASCII case, or decimal
digits with an optional point, at least one digit, and an optional exponent. Its value is rounded
once, to the format that is asked for.
-/

set_option autoImplicit false

namespace TargetAbi.Binary

/-- Why a text is no floating-point literal. -/
inductive LiteralError where
  | empty
  | malformed
  deriving DecidableEq, Repr

/-- The message for a rejected literal. -/
def LiteralError.message : LiteralError → String
  | empty => "cannot parse float from empty string"
  | malformed => "invalid float literal"

/-- A decimal numeral: the digits before the point, those after it, and the exponent. -/
structure DecimalNumeral where
  whole : List Char
  fraction : List Char
  exponent : Int
  deriving DecidableEq, Repr

/-- The magnitude nearest to the number that a numeral denotes. -/
def DecimalNumeral.round (n : DecimalNumeral) (f : Format) : Nat :=
  f.ofDecimal (Numeral.valueOf 10 (n.whole ++ n.fraction)) (n.exponent - n.fraction.length)

/-- The longest run of decimal digits in front, and what follows it. -/
def spanDigits (cs : List Char) : List Char × List Char :=
  cs.span (Numeral.isDigit 10)

/-- A sign in front, as "is negative", and what follows it. -/
def splitSign : List Char → Bool × List Char
  | '-' :: cs => (true, cs)
  | '+' :: cs => (false, cs)
  | cs => (false, cs)

/-- The digits after an optional point. -/
def readFraction : List Char → List Char × List Char
  | '.' :: cs => spanDigits cs
  | cs => ([], cs)

/-- An optional exponent, which has to end the text. -/
def readExponent : List Char → Option Int
  | [] => some 0
  | c :: cs =>
    if c = 'e' ∨ c = 'E' then
      let (negative, body) := splitSign cs
      if body ≠ [] ∧ body.all (Numeral.isDigit 10) then
        let n : Int := Numeral.valueOf 10 body
        some (if negative then -n else n)
      else none
    else none

/-- The unsigned decimal numeral that a text is. -/
def readNumeral (cs : List Char) : Option DecimalNumeral :=
  let (whole, rest) := spanDigits cs
  let (fraction, rest) := readFraction rest
  if whole = [] ∧ fraction = [] then none
  else (readExponent rest).map (⟨whole, fraction, ·⟩)

/-- The magnitude of a named special value. -/
def special? (f : Format) (cs : List Char) : Option Nat :=
  let lower := cs.map Char.toLower
  if lower = "inf".toList ∨ lower = "infinity".toList then some f.infinity
  else if lower = "nan".toList then some f.quietNaN
  else none

/-- The pattern that a literal denotes in a format. -/
def Format.readLiteral (f : Format) (cs : List Char) : Except LiteralError Nat :=
  if cs = [] then .error .empty
  else
    let (negative, body) := splitSign cs
    match (special? f body).or ((readNumeral body).map (·.round f)) with
    | some m => .ok (f.withSign negative m)
    | none => .error .malformed

end TargetAbi.Binary
