import TargetAbi.Binary.Literal
import TargetAbi.Toml

/-!
# Lexical units of TOML

Blanks, comments, line ends, strings, keys and unquoted scalars. Each reader takes the characters
that are left of a text and returns what it has read with those that are left after it; the place of
a character is known from the number of characters left.
-/

set_option autoImplicit false

namespace TargetAbi.Toml

/-- The characters left of a text after something was read from it. -/
abbrev Rest := List Char

/-! ## Blanks, comments and line ends -/

/-- A blank inside a line. -/
def isBlank (c : Char) : Bool := c == ' ' || c == '\t'

/-- A character of a comment or a string: a tab, or no control. -/
def isPlain (c : Char) : Bool := c == '\t' || (0x20 ≤ c.toNat && c.toNat != 0x7F)

/-- The text without blanks in front. -/
def skipBlanks (cs : Rest) : Rest := cs.dropWhile isBlank

/-- The text after a line end. -/
def newline? : Rest → Option Rest
  | '\n' :: r => some r
  | '\r' :: '\n' :: r => some r
  | _ => none

/-- The text without a comment in front. -/
def skipComment : Rest → Rest
  | '#' :: r => r.dropWhile isPlain
  | r => r

/-- The text after the end of a line, on which only blanks and a comment may be left. -/
def endLine (cs : Rest) : Option Rest :=
  match skipComment (skipBlanks cs) with
  | [] => some []
  | r => newline? r

/-- The text without blanks, line ends and comments in front; `inComment` tells whether it starts
inside a comment. A comment has to end with its line. -/
def skipTrivia (inComment : Bool) : Rest → Option Rest
  | [] => if inComment then none else some []
  | '\r' :: '\n' :: r => skipTrivia false r
  | c :: r =>
    if c = '\n' then skipTrivia false r
    else if inComment then (if isPlain c then skipTrivia true r else none)
    else if isBlank c then skipTrivia false r
    else if c = '#' then skipTrivia true r
    else some (c :: r)

/-! ## Strings -/

/-- The character with the code point written by hexadecimal digits. -/
def codePoint? (digits : List Char) : Option Char :=
  if digits.all (Numeral.isDigit 16) then
    let n := Numeral.valueOf 16 digits
    if n < 0xD800 ∨ (0xE000 ≤ n ∧ n < 0x110000) then some (Char.ofNat n) else none
  else none

/-- The character that stands for an escape sequence after its backslash. -/
def escape? : Rest → Option (Char × Rest)
  | 'b' :: r => some ('\x08', r)
  | 't' :: r => some ('\t', r)
  | 'n' :: r => some ('\n', r)
  | 'f' :: r => some ('\x0c', r)
  | 'r' :: r => some ('\r', r)
  | '"' :: r => some ('"', r)
  | '\\' :: r => some ('\\', r)
  | 'u' :: r =>
    if (r.take 4).length = 4 then (codePoint? (r.take 4)).map (·, r.drop 4) else none
  | 'U' :: r =>
    if (r.take 8).length = 8 then (codePoint? (r.take 8)).map (·, r.drop 8) else none
  | _ => none

/-- The contents of a string up to its closing quotation mark. -/
def basicBody : Rest → Option (List Char × Rest)
  | [] => none
  | c :: r =>
    if c = '"' then some ([], r)
    else if c = '\\' then
      match escape? r with
      | some (ch, r') =>
        if r'.length ≤ r.length then (basicBody r').map fun (s, t) => (ch :: s, t) else none
      | none => none
    else if isPlain c then (basicBody r).map fun (s, t) => (c :: s, t)
    else none
termination_by cs => cs.length

/-- The contents of a literal string up to its closing apostrophe. -/
def literalBody : Rest → Option (List Char × Rest)
  | [] => none
  | c :: r =>
    if c = '\'' then some ([], r)
    else if isPlain c then (literalBody r).map fun (s, t) => (c :: s, t)
    else none

/-- The end of a string in triple quotes after three of them: one or two more belong to the
contents. -/
def closingQuotes (quote : Char) : Rest → List Char × Rest
  | a :: b :: r =>
    if a = quote then (if b = quote then ([quote, quote], r) else ([quote], b :: r))
    else ([], a :: b :: r)
  | [a] => if a = quote then ([quote], []) else ([], [a])
  | [] => ([], [])

/-- Whether a text starts with three quotes. -/
def startsTriple (quote : Char) (cs : Rest) : Bool := cs.take 3 == [quote, quote, quote]

/-- The text after a line that is continued on the next one: blanks, a line end, and then all blanks
and line ends. -/
def continuation? (cs : Rest) : Option Rest :=
  (newline? (skipBlanks cs)).bind fun r => some (dropLines r)
where
  /-- The text without blanks and line ends in front. -/
  dropLines : Rest → Rest
    | '\r' :: '\n' :: r => dropLines r
    | c :: r => if isBlank c || c == '\n' then dropLines r else c :: r
    | [] => []

/-- The contents of a string in triple quotation marks. -/
def multilineBasicBody (cs : Rest) : Option (List Char × Rest) :=
  if startsTriple '"' cs then some (closingQuotes '"' (cs.drop 3))
  else
    match cs with
    | [] => none
    | '\r' :: '\n' :: r => (multilineBasicBody r).map fun (s, t) => ('\n' :: s, t)
    | c :: r =>
      if c = '\\' then
        match continuation? r with
        | some r' => if r'.length ≤ r.length then multilineBasicBody r' else none
        | none =>
          match escape? r with
          | some (ch, r') =>
            if r'.length ≤ r.length then
              (multilineBasicBody r').map fun (s, t) => (ch :: s, t)
            else none
          | none => none
      else if isPlain c || c == '\n' then (multilineBasicBody r).map fun (s, t) => (c :: s, t)
      else none
termination_by cs.length

/-- The contents of a string in triple apostrophes. -/
def multilineLiteralBody (cs : Rest) : Option (List Char × Rest) :=
  if startsTriple '\'' cs then some (closingQuotes '\'' (cs.drop 3))
  else
    match cs with
    | [] => none
    | '\r' :: '\n' :: r => (multilineLiteralBody r).map fun (s, t) => ('\n' :: s, t)
    | c :: r =>
      if isPlain c || c == '\n' then (multilineLiteralBody r).map fun (s, t) => (c :: s, t)
      else none
termination_by cs.length

/-- The text without a line end in front, if it has one. -/
def skipNewline (cs : Rest) : Rest := (newline? cs).getD cs

/-- A string that stands as a value. -/
def readString (cs : Rest) : Option (String × Rest) :=
  (if startsTriple '"' cs then multilineBasicBody (skipNewline (cs.drop 3))
  else if startsTriple '\'' cs then multilineLiteralBody (skipNewline (cs.drop 3))
  else
    match cs with
    | '"' :: r => basicBody r
    | '\'' :: r => literalBody r
    | _ => none).map fun (s, r) => (String.ofList s, r)

/-! ## Keys -/

/-- A character of an unquoted key. -/
def isBareKeyChar (c : Char) : Bool := c.isAlphanum || c == '-' || c == '_'

/-- A key without dots. -/
def readSimpleKey (cs : Rest) : Option (String × Rest) :=
  match cs with
  | '"' :: r => (basicBody r).map fun (s, t) => (String.ofList s, t)
  | '\'' :: r => (literalBody r).map fun (s, t) => (String.ofList s, t)
  | cs =>
    let name := cs.takeWhile isBareKeyChar
    if name = [] then none else some (String.ofList name, cs.dropWhile isBareKeyChar)

/-- The parts of a dotted key in a text of `size` characters, with blanks around each part. -/
def readKeyParts (size : Nat) (cs : Rest) : Option (List Key × Rest) :=
  let start := skipBlanks cs
  match readSimpleKey start with
  | none => none
  | some (name, r) =>
    let key : Key := ⟨name, ⟨size - start.length, size - r.length⟩⟩
    match skipBlanks r with
    | '.' :: r' =>
      if r'.length < cs.length then (readKeyParts size r').map fun (ks, t) => (key :: ks, t)
      else none
    | r' => some ([key], r')
termination_by cs.length

/-- Parts of keys and brackets around values may be nested less deep than this. -/
def nestingLimit : Nat := 80

/-- A key, as the parts before the last one and the last one. -/
def readKey (size : Nat) (cs : Rest) : Option ((List Key × Key) × Rest) :=
  match readKeyParts size cs with
  | none => none
  | some (ks, r) =>
    match ks.getLast? with
    | some k => if ks.length < nestingLimit then some ((ks.dropLast, k), r) else none
    | none => none

/-! ## Unquoted scalars -/

/-- A character of an unquoted scalar. -/
def isScalarChar (c : Char) : Bool :=
  c.isAlphanum || c == '+' || c == '-' || c == '_' || c == '.' || c == ':'

/-- Digits without the underscores between them; each underscore stands between two digits. -/
def plainDigits? (base : Nat) : List Char → Option (List Char)
  | [] => none
  | [c] => if Numeral.isDigit base c then some [c] else none
  | c :: '_' :: cs => if Numeral.isDigit base c then (plainDigits? base cs).map (c :: ·) else none
  | c :: cs => if Numeral.isDigit base c then (plainDigits? base cs).map (c :: ·) else none

/-- The digits of a decimal number before the point, without a leading zero. -/
def wholeDigits? (cs : List Char) : Option (List Char) :=
  match plainDigits? 10 cs with
  | some ('0' :: _ :: _) => none
  | digits => digits

/-- A 64-bit signed integer in decimal, without its sign. -/
def decimalInteger? (negative : Bool) (cs : List Char) : Option Int :=
  match (wholeDigits? cs).map (Numeral.valueOf 10) with
  | none => none
  | some n =>
    if negative then (if n ≤ Nat.pow 2 63 then some (-n) else none)
    else (if n < Nat.pow 2 63 then some n else none)

/-- A 64-bit signed integer in another base. -/
def basedInteger? (base : Nat) (cs : List Char) : Option Int :=
  match (plainDigits? base cs).map (Numeral.valueOf base) with
  | none => none
  | some n => if n < Nat.pow 2 63 then some n else none

/-- An integer. -/
def integer? : List Char → Option Int
  | '0' :: 'x' :: cs => basedInteger? 16 cs
  | '0' :: 'o' :: cs => basedInteger? 8 cs
  | '0' :: 'b' :: cs => basedInteger? 2 cs
  | '-' :: cs => decimalInteger? true cs
  | '+' :: cs => decimalInteger? false cs
  | cs => decimalInteger? false cs

/-- The digits of a fraction, after the point that has to stand in front of them. -/
def fractionDigits? : List Char → Option (List Char)
  | [] => some []
  | '.' :: cs => plainDigits? 10 cs
  | _ => none

/-- The exponent of a number, after the letter that has to stand in front of it. -/
def exponent? : List Char → Option Int
  | [] => some 0
  | _ :: cs =>
    let (negative, digits) := Binary.splitSign cs
    (plainDigits? 10 digits).map fun ds =>
      let n : Int := Numeral.valueOf 10 ds
      if negative then -n else n

/-- A decimal number without its sign that has a point or an exponent. -/
def decimalFloat? (cs : List Char) : Option Binary.DecimalNumeral :=
  let (mantissa, power) := cs.span fun c => c != 'e' && c != 'E'
  let (whole, fraction) := mantissa.span (· != '.')
  if fraction = [] ∧ power = [] then none
  else do
    let whole ← wholeDigits? whole
    let fraction ← fractionDigits? fraction
    let exponent ← exponent? power
    some ⟨whole, fraction, exponent⟩

/-- A float, as a double-precision pattern; a positive one has to be below the range of overflow. -/
def float? (cs : List Char) : Option UInt64 :=
  let f := Binary.double
  let (negative, body) := Binary.splitSign cs
  if body = "inf".toList then some (UInt64.ofNat (f.withSign negative f.infinity))
  else if body = "nan".toList then some (UInt64.ofNat (f.withSign negative f.quietNaN))
  else
    match (decimalFloat? body).map (·.round f) with
    | none => none
    | some m =>
      if m = f.infinity ∧ !negative then none else some (UInt64.ofNat (f.withSign negative m))

/-- The number of two decimal digits in front, and the rest. -/
def twoDigits? : List Char → Option (Nat × List Char)
  | a :: b :: r =>
    if Numeral.isDigit 10 a && Numeral.isDigit 10 b then some (Numeral.valueOf 10 [a, b], r)
    else none
  | _ => none

/-- The text after the character `c`. -/
def after? (c : Char) : List Char → Option (List Char)
  | a :: r => if a = c then some r else none
  | [] => none

/-- Days of a month. -/
def daysIn (year month : Nat) : Nat :=
  if month = 2 then
    (if year % 4 = 0 ∧ (year % 100 ≠ 0 ∨ year % 400 = 0) then 29 else 28)
  else if month = 4 ∨ month = 6 ∨ month = 9 ∨ month = 11 then 30
  else 31

/-- The text after a date. -/
def date? (cs : List Char) : Option (List Char) := do
  let (century, r) ← twoDigits? cs
  let (years, r) ← twoDigits? r
  let r ← after? '-' r
  let (month, r) ← twoDigits? r
  let r ← after? '-' r
  let (day, r) ← twoDigits? r
  if 1 ≤ month ∧ month ≤ 12 ∧ 1 ≤ day ∧ day ≤ daysIn (century * 100 + years) month then some r
  else none

/-- The text after the fraction of a second, if there is one. -/
def secondFraction? : List Char → Option (List Char)
  | '.' :: r =>
    if (r.takeWhile (Numeral.isDigit 10)) = [] then none else some (r.dropWhile (Numeral.isDigit 10))
  | r => some r

/-- The text after a time of day. -/
def time? (cs : List Char) : Option (List Char) := do
  let (hour, r) ← twoDigits? cs
  let r ← after? ':' r
  let (minute, r) ← twoDigits? r
  let r ← after? ':' r
  let (second, r) ← twoDigits? r
  if hour ≤ 23 ∧ minute ≤ 59 ∧ second ≤ 60 then secondFraction? r else none

/-- Whether a text is empty or an offset from universal time. -/
def isOffset : List Char → Bool
  | [] => true
  | ['Z'] => true
  | ['z'] => true
  | c :: r =>
    (c == '+' || c == '-') &&
      match twoDigits? r with
      | some (hour, ':' :: r) =>
        match twoDigits? r with
        | some (minute, []) => hour ≤ 23 && minute ≤ 59
        | _ => false
      | _ => false

/-- Whether a text is a date. -/
def isDate (cs : List Char) : Bool := date? cs == some []

/-- Whether a text is a time with an optional offset. -/
def isOffsetTime (cs : List Char) : Bool := (time? cs).any isOffset

/-- Whether a text is a time, a date, or a date and a time without a blank between them. -/
def isDateTime (cs : List Char) : Bool :=
  time? cs == some [] ||
    match date? cs with
    | some [] => true
    | some (c :: r) => (c == 'T' || c == 't') && isOffsetTime r
    | none => false

/-- The scalar that a run of scalar characters denotes. -/
def scalar? (cs : List Char) : Option Scalar :=
  if cs = "true".toList then some (.boolean true)
  else if cs = "false".toList then some (.boolean false)
  else if isDateTime cs then some (.dateTime (String.ofList cs))
  else ((float? cs).map Scalar.float).or ((integer? cs).map Scalar.integer)

/-- An unquoted scalar. A date may be followed by a blank and a time, which then belong to it. -/
def readScalar (cs : Rest) : Option (Scalar × Rest) :=
  let (run, r) := cs.span isScalarChar
  let (run', r') := (r.drop 1).span isScalarChar
  if isDate run ∧ r.take 1 = [' '] ∧ isOffsetTime run' then
    some (.dateTime (String.ofList (run ++ ' ' :: run')), r')
  else (scalar? run).map (·, r)

end TargetAbi.Toml
