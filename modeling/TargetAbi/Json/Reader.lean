import TargetAbi.Json.Token

/-!
# Reading JSON

The tokens of a text are read from left to right by a machine that keeps the brackets which are
still open, innermost first, and what may come next. A text is a value when the machine ends with no
open bracket and a complete value. A key that an object has twice keeps its place and gets the later
value.
-/

set_option autoImplicit false

namespace TargetAbi.Json

/-- An open bracket with what has been read inside it. -/
inductive Frame where
  | array (items : List Json)
  | object (fields : List (String × Json)) (key : String)

/-- What the reader waits for. -/
inductive Awaiting where
  | value
  /-- The first item of an array, or its end. -/
  | firstItem
  /-- The first key of an object, or its end. -/
  | firstKey
  /-- A further key. -/
  | key (fields : List (String × Json))
  /-- The colon after a key. -/
  | colon (fields : List (String × Json)) (key : String)
  /-- A comma or a closing bracket after a complete value, or the end of the text. -/
  | after (value : Json)

/-- The state of the reader. -/
structure ReadState where
  stack : List Frame
  awaiting : Awaiting

/-- The step on a token where a value may start. -/
def ReadState.startValue (stack : List Frame) : Token → Option ReadState
  | .openArray => some ⟨stack, .firstItem⟩
  | .openObject => some ⟨stack, .firstKey⟩
  | .string s => some ⟨stack, .after (.str s)⟩
  | .scalar v => some ⟨stack, .after v⟩
  | _ => none

/-- The state after one more token. -/
def ReadState.step : ReadState → Token → Option ReadState
  | ⟨stack, .value⟩, t => startValue stack t
  | ⟨stack, .firstItem⟩, .closeArray => some ⟨stack, .after (.arr [])⟩
  | ⟨stack, .firstItem⟩, t => startValue (.array [] :: stack) t
  | ⟨stack, .firstKey⟩, .closeObject => some ⟨stack, .after (.obj [])⟩
  | ⟨stack, .firstKey⟩, .string k => some ⟨stack, .colon [] k⟩
  | ⟨stack, .key fields⟩, .string k => some ⟨stack, .colon fields k⟩
  | ⟨stack, .colon fields k⟩, .colon => some ⟨.object fields k :: stack, .value⟩
  | ⟨.array items :: stack, .after v⟩, .comma => some ⟨.array (items ++ [v]) :: stack, .value⟩
  | ⟨.array items :: stack, .after v⟩, .closeArray => some ⟨stack, .after (.arr (items ++ [v]))⟩
  | ⟨.object fields k :: stack, .after v⟩, .comma => some ⟨stack, .key (put k v fields)⟩
  | ⟨.object fields k :: stack, .after v⟩, .closeObject =>
    some ⟨stack, .after (.obj (put k v fields))⟩
  | _, _ => none

/-- The state after a list of tokens. -/
def ReadState.run : ReadState → List Token → Option ReadState
  | s, [] => some s
  | s, t :: ts => (s.step t).bind (run · ts)

/-- The value that a list of tokens is. -/
def ofTokens? (ts : List Token) : Option Json :=
  match ReadState.run ⟨[], .value⟩ ts with
  | some ⟨[], .after v⟩ => some v
  | _ => none

/-- The value that a text is. -/
def ofText? (text : String) : Option Json :=
  (Token.ofChars? text.toList).bind ofTokens?

end TargetAbi.Json
