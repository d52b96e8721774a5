import TargetAbi.Proofs.LetterCase
import TargetAbi.Proofs.Numeral
import TargetAbi.Toml.Printer
import TargetAbi.Toml.Statement

/-!
# Reading back what stands on a line

Reading a string undoes its escapes (`basicBody_flatMap_escapeChar`); so strings and booleans at the
end of a line are read back (`readValue_chars`), and so is an unquoted key in front of its equals
sign (`readKey_bare`). A line without a field is skipped.
-/

set_option autoImplicit false

namespace TargetAbi.Toml

/-- The two ways in which a line ends. -/
inductive LineEnd where
  | lf
  | crlf
  deriving DecidableEq, Repr

/-- The characters at the end of a line. -/
def LineEnd.chars : LineEnd → List Char
  | lf => ['\n']
  | crlf => ['\r', '\n']

variable {cs : List Char} {e : LineEnd} {rest : List Char}

/-! ## Lines without a field -/

theorem skipComment_skipBlanks_chars :
    skipComment (skipBlanks (e.chars ++ rest)) = e.chars ++ rest := by
  cases e with
  | lf => rfl
  | crlf => rfl

theorem endLine_of_eq_chars (h : skipComment (skipBlanks cs) = e.chars ++ rest) :
    endLine cs = some rest := by
  rw [endLine, h]
  cases e with
  | lf => rfl
  | crlf => rfl

theorem endLine_chars : endLine (e.chars ++ rest) = some rest :=
  endLine_of_eq_chars skipComment_skipBlanks_chars

theorem endLine_blanks (h : ∀ c ∈ cs, isBlank c = true) :
    endLine (cs ++ (e.chars ++ rest)) = some rest := by
  have hskip : skipBlanks (cs ++ (e.chars ++ rest)) = skipBlanks (e.chars ++ rest) :=
    List.dropWhile_append_of_pos h
  apply endLine_of_eq_chars
  rw [hskip]
  exact skipComment_skipBlanks_chars

theorem endLine_comment (h : ∀ c ∈ cs, isPlain c = true) :
    endLine ('#' :: cs ++ (e.chars ++ rest)) = some rest := by
  apply endLine_of_eq_chars
  show (cs ++ (e.chars ++ rest)).dropWhile isPlain = e.chars ++ rest
  rw [List.dropWhile_append_of_pos h]
  -- a comment stops at a line end, which is no plain character
  cases e with
  | lf => rfl
  | crlf => rfl

/-! ## The start of an unquoted key -/

theorem cons_ne_of_isBareKeyChar {c d : Char} (hc : isBareKeyChar c = true)
    (hd : isBareKeyChar d = false) (cs r : List Char) : c :: cs ≠ d :: r := by
  intro h
  cases h
  rw [hc] at hd
  cases hd

theorem skipBlanks_of_isBareKeyChar {c : Char} (h : isBareKeyChar c = true) (cs : List Char) :
    skipBlanks (c :: cs) = c :: cs := by
  apply List.dropWhile_cons_of_neg
  intro hblank
  simp only [isBlank, Bool.or_eq_true, beq_iff_eq] at hblank
  rcases hblank with rfl | rfl
  · exact cons_ne_of_isBareKeyChar h rfl cs cs rfl
  · exact cons_ne_of_isBareKeyChar h rfl cs cs rfl

/-- A key does not end its line. -/
theorem endLine_of_isBareKeyChar {c : Char} (h : isBareKeyChar c = true) (cs : List Char) :
    endLine (c :: cs) = none := by
  have hcomment : skipComment (c :: cs) = c :: cs :=
    skipComment.eq_2 _ (cons_ne_of_isBareKeyChar h rfl cs)
  rw [endLine, skipBlanks_of_isBareKeyChar h, hcomment]
  exact newline?.eq_3 _ (cons_ne_of_isBareKeyChar h rfl cs)
    fun r => cons_ne_of_isBareKeyChar h rfl cs _

/-! ## Strings -/

theorem basicBody_plain {c : Char} (hplain : isPlain c = true) (hquote : c ≠ '"')
    (hbackslash : c ≠ '\\') (cs : List Char) :
    basicBody (c :: cs) = (basicBody cs).map fun (s, t) => (c :: s, t) := by
  rw [basicBody, if_neg hquote, if_neg hbackslash, if_pos hplain]

theorem basicBody_escape (letters : List Char) {c : Char}
    (h : ∀ r, escape? (letters ++ r) = some (c, r)) (cs : List Char) :
    basicBody ('\\' :: (letters ++ cs)) = (basicBody cs).map fun (s, t) => (c :: s, t) := by
  -- the reader goes on only if the escape has left no more characters than it was given
  have hlength : cs.length ≤ (letters ++ cs).length := by simp
  rw [basicBody, if_neg (by decide), if_pos rfl, h]
  exact if_pos hlength

/-- The characters that are written by their code points have two-digit ones. -/
theorem toNat_lt_of_not_isPlain {c : Char} (h : ¬ isPlain c = true) : c.toNat < 0x80 := by
  simp only [isPlain, Bool.or_eq_true, Bool.and_eq_true, bne_iff_ne, decide_eq_true_eq] at h
  omega

theorem codePoint?_hexFixed {c : Char} (h : c.toNat < 0x80) :
    codePoint? (Numeral.hexFixed 4 c.toNat) = some c := by
  have hdigits : (Numeral.hexFixed 4 c.toNat).all (Numeral.isDigit 16) = true := by
    rw [List.all_eq_true]
    exact fun d hd => (Numeral.denotes_hexFixed (by decide) c.toNat).isDigit d hd
  have hvalue : Numeral.valueOf 16 (Numeral.hexFixed 4 c.toNat) = c.toNat := by
    rw [Numeral.valueOf_hexFixed, Nat.mod_eq_of_lt (by omega)]
  rw [codePoint?, if_pos hdigits]
  simp only [hvalue]
  rw [if_pos (Or.inl (by omega)), Char.ofNat_toNat]

theorem escape?_hexFixed {c : Char} (h : c.toNat < 0x80) (r : List Char) :
    escape? ('u' :: Numeral.hexFixed 4 c.toNat ++ r) = some (c, r) := by
  have hlength := Numeral.length_hexFixed 4 c.toNat
  have htake : (Numeral.hexFixed 4 c.toNat ++ r).take 4 = Numeral.hexFixed 4 c.toNat :=
    List.take_left' hlength
  have hdrop : (Numeral.hexFixed 4 c.toNat ++ r).drop 4 = r := List.drop_left' hlength
  rw [List.cons_append, escape?, htake, hdrop, if_pos hlength, codePoint?_hexFixed h]
  rfl

/-- Reading undoes the escape of a character. -/
theorem basicBody_escapeChar (c : Char) (cs : List Char) :
    basicBody (escapeChar c ++ cs) = (basicBody cs).map fun (s, t) => (c :: s, t) := by
  unfold escapeChar
  -- a mark has a letter of its own, a plain character stands as it is, and a control has a number
  split
  · rename_i hmark
    rcases hmark with rfl | rfl
    · exact basicBody_escape ['"'] (fun _ => rfl) cs
    · exact basicBody_escape ['\\'] (fun _ => rfl) cs
  · rename_i hmark
    rw [not_or] at hmark
    split
    · rename_i hplain
      exact basicBody_plain hplain hmark.1 hmark.2 cs
    · rename_i hplain
      exact basicBody_escape _ (escape?_hexFixed (toNat_lt_of_not_isPlain hplain)) cs

theorem basicBody_flatMap_escapeChar (s cs : List Char) :
    basicBody (s.flatMap escapeChar ++ '"' :: cs) = some (s, cs) := by
  induction s with
  | nil => rw [List.flatMap_nil, List.nil_append, basicBody, if_pos rfl]
  | cons c s ih =>
    rw [List.flatMap_cons, List.append_assoc, basicBody_escapeChar, ih]
    rfl

/-- Letters and digits stand for themselves. -/
theorem escapeChar_of_isAlphanum {c : Char} (h : c.isAlphanum = true) : escapeChar c = [c] := by
  have hmark : ¬ (c = '"' ∨ c = '\\') := by
    rintro (rfl | rfl)
    · exact absurd h (by decide)
    · exact absurd h (by decide)
  have hplain : isPlain c = true := by
    have hranges := Text.toNat_of_isAlphanum h
    simp only [isPlain, Bool.or_eq_true, Bool.and_eq_true, bne_iff_ne, decide_eq_true_eq]
    omega
  rw [escapeChar, if_neg hmark, if_pos hplain]

theorem flatMap_escapeChar_of_isAlphanum {s : List Char} (h : ∀ c ∈ s, c.isAlphanum = true) :
    s.flatMap escapeChar = s := by
  induction s with
  | nil => rfl
  | cons c s ih =>
    rw [List.flatMap_cons, escapeChar_of_isAlphanum (h c List.mem_cons_self),
      ih fun d hd => h d (List.mem_cons_of_mem c hd)]
    rfl

/-! ## Values -/

/-- A string or a boolean. -/
inductive Scalar.IsBasic : Scalar → Prop
  | string (s : String) : IsBasic (.string s)
  | boolean (b : Bool) : IsBasic (.boolean b)

/-- Two quotation marks in front do not start a string of several lines, as the line ends after
them. -/
theorem startsTriple_chars (s : List Char) :
    startsTriple '"' ('"' :: (s.flatMap escapeChar ++ '"' :: (e.chars ++ rest))) = false := by
  cases s with
  | nil =>
    cases e with
    | lf => rfl
    | crlf => rfl
  | cons c s =>
    -- no character in the quotation marks starts with another one
    rw [List.flatMap_cons]
    unfold escapeChar
    split
    · simp [startsTriple]
    · rename_i hmark
      rw [not_or] at hmark
      split
      · simp [startsTriple, hmark.1]
      · simp [startsTriple]

theorem readString_chars (s : String) :
    readString ((Scalar.string s).chars ++ (e.chars ++ rest)) = some (s, e.chars ++ rest) := by
  have hchars : (Scalar.string s).chars ++ (e.chars ++ rest) =
      '"' :: (s.toList.flatMap escapeChar ++ '"' :: (e.chars ++ rest)) := by
    simp [Scalar.chars]
  rw [hchars, readString, if_neg (by rw [startsTriple_chars]; decide), if_neg (by simp [startsTriple])]
  show (basicBody (s.toList.flatMap escapeChar ++ '"' :: (e.chars ++ rest))).map _ = _
  rw [basicBody_flatMap_escapeChar]
  show some (String.ofList s.toList, e.chars ++ rest) = some (s, e.chars ++ rest)
  rw [String.ofList_toList]

theorem readLeaf_string (s : String) :
    readLeaf ((Scalar.string s).chars ++ (e.chars ++ rest)) =
      some (.scalar (.string s), e.chars ++ rest) := by
  rw [readLeaf, readString_chars]
  rfl

theorem readLeaf_boolean (b : Bool) :
    readLeaf ((Scalar.boolean b).chars ++ (e.chars ++ rest)) =
      some (.scalar (.boolean b), e.chars ++ rest) := by
  cases b with
  | true =>
    cases e with
    | lf => rfl
    | crlf => rfl
  | false =>
    cases e with
    | lf => rfl
    | crlf => rfl

/-- Strings and booleans do not start with a bracket. -/
theorem readValue_chars {v : Scalar} (hv : v.IsBasic) (size depth : Nat) :
    readValue size depth (v.chars ++ (e.chars ++ rest)) = some (.scalar v, e.chars ++ rest) := by
  cases hv with
  | string s =>
    refine Eq.trans ?_ (readLeaf_string s)
    cases depth with
    | zero => rfl
    | succ depth => rfl
  | boolean b =>
    refine Eq.trans ?_ (readLeaf_boolean b)
    cases b with
    | true =>
      cases depth with
      | zero => rfl
      | succ depth => rfl
    | false =>
      cases depth with
      | zero => rfl
      | succ depth => rfl

/-! ## Keys -/

theorem readSimpleKey_bare {key : List Char} (hne : key ≠ [])
    (h : ∀ c ∈ key, isBareKeyChar c = true) :
    readSimpleKey (key ++ ' ' :: rest) = some (String.ofList key, ' ' :: rest) := by
  have htake : (key ++ ' ' :: rest).takeWhile isBareKeyChar = key := by
    rw [List.takeWhile_append_of_pos h, List.takeWhile_cons_of_neg (by decide), List.append_nil]
  have hdrop : (key ++ ' ' :: rest).dropWhile isBareKeyChar = ' ' :: rest := by
    rw [List.dropWhile_append_of_pos h, List.dropWhile_cons_of_neg (by decide)]
  obtain ⟨c, cs, rfl⟩ := List.exists_cons_of_ne_nil hne
  have hfirst := h c List.mem_cons_self
  rw [List.cons_append] at htake hdrop ⊢
  -- the key is no quoted one
  rw [readSimpleKey.eq_3 _ (cons_ne_of_isBareKeyChar hfirst rfl _)
    (cons_ne_of_isBareKeyChar hfirst rfl _)]
  simp only [htake, hdrop, if_neg hne]

theorem readKey_bare {key : List Char} (hne : key ≠ []) (h : ∀ c ∈ key, isBareKeyChar c = true)
    (size : Nat) (rest : List Char) :
    ∃ span, readKey size (key ++ ' ' :: '=' :: rest) =
      some (([], ⟨String.ofList key, span⟩), '=' :: rest) := by
  have hskip : skipBlanks (key ++ ' ' :: '=' :: rest) = key ++ ' ' :: '=' :: rest := by
    obtain ⟨c, cs, rfl⟩ := List.exists_cons_of_ne_nil hne
    exact skipBlanks_of_isBareKeyChar (h c List.mem_cons_self) _
  have hparts : ∃ span, readKeyParts size (key ++ ' ' :: '=' :: rest) =
      some ([⟨String.ofList key, span⟩], '=' :: rest) := by
    rw [readKeyParts, hskip, readSimpleKey_bare hne h]
    exact ⟨_, rfl⟩
  obtain ⟨span, hparts⟩ := hparts
  refine ⟨span, ?_⟩
  rw [readKey, hparts]
  rfl

end TargetAbi.Toml
