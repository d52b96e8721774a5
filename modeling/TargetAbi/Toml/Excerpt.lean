import TargetAbi.Text.Numeral
import TargetAbi.Toml

/-!
# Excerpts

An error that belongs to a part of a text is shown with the line on which the part starts and a
row of carets below it. Lines end at line feeds only. Columns count characters; the carets count
bytes, and do not go beyond the line.
-/

set_option autoImplicit false

namespace TargetAbi.Toml

/-- The number of bytes of a text in UTF-8. -/
def byteLength (cs : List Char) : Nat := cs.foldr (fun c n => c.utf8Size + n) 0

/-- A line of a text, cut in two at a place on it, and its number. -/
structure Excerpt where
  /-- The number of the line, from one. -/
  line : Nat
  before : List Char
  after : List Char
  deriving DecidableEq, Repr

namespace Excerpt

/-- Whether a character belongs to a line. -/
def isInLine (c : Char) : Bool := c != '\n'

/-- The line of character number `start`. -/
def around (cs : List Char) (start : Nat) : Excerpt where
  line := (cs.take start).count '\n' + 1
  before := ((cs.take start).reverse.takeWhile isInLine).reverse
  after := (cs.drop start).takeWhile isInLine

/-- The column of the place, from zero. -/
def column (e : Excerpt) : Nat := e.before.length

/-- The carets below a part of `bytes` bytes that starts at the place. -/
def carets (e : Excerpt) (bytes : Nat) : Nat :=
  max 1 (min bytes (byteLength (e.before ++ e.after) - e.column))

end Excerpt

/-- An error message `detail` that points to a part of `text`. -/
def renderError (text : String) (span : Span) (detail : String) : String :=
  let cs := text.toList
  let e := Excerpt.around cs span.start
  let line := Numeral.decimal e.line
  let gutter := String.ofList (List.replicate (line.length + 1) ' ') ++ "|"
  let carets := e.carets (byteLength ((cs.take span.stop).drop span.start))
  "TOML parse error at line " ++ line ++ ", column " ++ Numeral.decimal (e.column + 1) ++ "\n" ++
    gutter ++ "\n" ++
    line ++ " | " ++ String.ofList (e.before ++ e.after) ++ "\n" ++
    gutter ++ String.ofList (List.replicate (e.column + 1) ' ' ++ List.replicate carets '^') ++ "\n" ++
    detail ++ "\n"

end TargetAbi.Toml
