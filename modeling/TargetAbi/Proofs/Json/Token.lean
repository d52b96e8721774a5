import Mathlib.Algebra.Ring.Int.Defs
import TargetAbi.Json.Encoding
import TargetAbi.Json.Printer
import TargetAbi.Json.Token
import TargetAbi.Proofs.Numeral

/-!
# Tokens of written values

What the token reader finds in the text of a value, piece by piece. Reading a string undoes its
escapes (`readString_flatMap_escapeChar`), an integer of 64 bits is found again
(`number?_signedDecimal`), the blanks between tokens are dropped, and a number reaches to the first
character that cannot belong to it (`ofChars?_number`).
-/

set_option autoImplicit false

namespace TargetAbi.Json

/-- A value without floats: every integer in it has at most 64 bits, and no object in it has a key
twice. -/
inductive IsExact : Json → Prop
  | null : IsExact null
  | bool (b : Bool) : IsExact (bool b)
  | int {n : Int} : -2 ^ 63 ≤ n → n < 2 ^ 64 → IsExact (int n)
  | str (s : String) : IsExact (str s)
  | arr {items : List Json} : (∀ v ∈ items, IsExact v) → IsExact (arr items)
  | obj {fields : List (String × Json)} : (keys fields).Nodup → (∀ f ∈ fields, IsExact f.2) →
      IsExact (obj fields)

theorem isExact_nat {n : Nat} (h : n < 2 ^ 64) : IsExact (nat n) :=
  .int (by omega) (by omega)

mutual

/-- The tokens of a value. -/
def tokens : Json → List Token
  | str s => [.string s]
  | arr [] => [.openArray, .closeArray]
  | arr (v :: vs) => .openArray :: (tokens v ++ (itemTokens vs ++ [.closeArray]))
  | obj [] => [.openObject, .closeObject]
  | obj ((k, v) :: fs) =>
    .openObject :: .string k :: .colon :: (tokens v ++ (fieldTokens fs ++ [.closeObject]))
  | v => [.scalar v]

/-- The tokens of the items after the first. -/
def itemTokens : List Json → List Token
  | [] => []
  | v :: vs => .comma :: (tokens v ++ itemTokens vs)

/-- The tokens of the fields after the first. -/
def fieldTokens : List (String × Json) → List Token
  | [] => []
  | (k, v) :: fs => .comma :: .string k :: .colon :: (tokens v ++ fieldTokens fs)

end

/-! ## Strings -/

theorem readString_plain {c : Char} (hc : 0x20 ≤ c.toNat) (hquote : c ≠ '"')
    (hbackslash : c ≠ '\\') (cs : List Char) :
    readString (c :: cs) = (readString cs).map fun (s, r) => (c :: s, r) := by
  rw [readString.eq_def]
  split
  · simp_all
  · simp_all
  · simp_all
  · simp_all
  · rename_i heq
    cases heq
    have hplain : ¬ (c.toNat < 0x20 ∨ c = '\\') := by
      rintro (hlt | heq)
      · omega
      · exact hbackslash heq
    rw [if_neg hplain]

theorem readString_letter {letter c : Char} (h : unescapeChar? letter = some c)
    (cs : List Char) :
    readString ('\\' :: letter :: cs) = (readString cs).map fun (s, r) => (c :: s, r) := by
  -- the letter `u` is the one that has digits after it
  have hu : letter ≠ 'u' := by
    rintro rfl
    have hnone : none = some c := h
    cases hnone
  rw [readString.eq_def]
  split
  · simp_all
  · simp_all
  · simp_all
  · rename_i heq
    cases heq
    rw [h]
  · rename_i hne heq
    cases heq
    exact absurd rfl (hne _ _ rfl)

theorem hexQuad?_control {n : Nat} (h : n < 0x20) :
    hexQuad? '0' '0' (Nat.digitChar (n / 16)) (Nat.digitChar (n % 16)) = some n := by
  have hall : ∀ m : Fin 0x20,
      hexQuad? '0' '0' (Nat.digitChar (m / 16)) (Nat.digitChar (m % 16)) = some m.val := by
    decide
  exact hall ⟨n, h⟩

theorem readString_control {c : Char} (h : c.toNat < 0x20) (cs : List Char) :
    readString ('\\' :: 'u' :: '0' :: '0' :: Nat.digitChar (c.toNat / 16) ::
        Nat.digitChar (c.toNat % 16) :: cs) =
      (readString cs).map fun (s, r) => (c :: s, r) := by
  have hvalue : scalarValue? c.toNat = some c := by
    rw [scalarValue?, if_neg (by omega), Char.ofNat_toNat]
  rw [readString.eq_def]
  simp only [hexQuad?_control h, hvalue]

/-- Reading undoes the escape of a character. -/
theorem readString_escapeChar (c : Char) (cs : List Char) :
    readString (escapeChar c ++ cs) = (readString cs).map fun (s, r) => (c :: s, r) := by
  unfold escapeChar
  -- seven characters have a letter, the other controls have digits, and the rest stand as they are
  split
  · subst c; exact readString_letter rfl cs
  split
  · subst c; exact readString_letter rfl cs
  split
  · subst c; exact readString_letter rfl cs
  split
  · subst c; exact readString_letter rfl cs
  split
  · subst c; exact readString_letter rfl cs
  split
  · subst c; exact readString_letter rfl cs
  split
  · subst c; exact readString_letter rfl cs
  split
  · rename_i hcontrol
    exact readString_control hcontrol cs
  · rename_i hquote hbackslash _ _ _ _ _ hcontrol
    exact readString_plain (by omega) hquote hbackslash cs

theorem readString_flatMap_escapeChar (s cs : List Char) :
    readString (s.flatMap escapeChar ++ '"' :: cs) = some (s, cs) := by
  induction s with
  | nil => rfl
  | cons c s ih =>
    rw [List.flatMap_cons, List.append_assoc, readString_escapeChar, ih]
    rfl

/-! ## Integers -/

theorem isWholePart_decimalDigits (n : Nat) :
    isWholePart (Numeral.decimalDigits n) = true := by
  by_cases hn : n = 0
  · subst hn
    rfl
  · have hhead := Numeral.head?_decimalDigits hn
    have hdigits := (Numeral.denotes_decimalDigits n).isDigit
    generalize hcs : Numeral.decimalDigits n = cs at hhead hdigits
    cases cs with
    | nil => exact absurd hcs (Numeral.denotes_decimalDigits n).ne_nil
    | cons c cs =>
      have hzero : c ≠ '0' := fun heq => hhead (congrArg some heq)
      rw [isWholePart]
      · simp only [Bool.and_eq_true, bne_iff_ne, List.all_eq_true]
        exact ⟨hzero, hdigits⟩
      · rintro heq -
        exact hzero heq

theorem takeWhile_decimalDigits (n : Nat) :
    (Numeral.decimalDigits n).takeWhile (Numeral.isDigit 10) = Numeral.decimalDigits n :=
  List.takeWhile_eq_self_iff.2 (Numeral.denotes_decimalDigits n).isDigit

theorem unsignedNumber?_natural {n : Nat} (h : n < 2 ^ 64) :
    unsignedNumber? false (Numeral.decimalDigits n) = some (int n) := by
  have hvalue := (Numeral.denotes_iff.1 (Numeral.denotes_decimalDigits n)).2.2
  have hsize : n < UInt64.size := h
  simp only [unsignedNumber?, takeWhile_decimalDigits, isWholePart_decimalDigits, hvalue]
  simp [hsize]

theorem unsignedNumber?_negative {n : Nat} (hpos : 0 < n) (h : n ≤ 2 ^ 63) :
    unsignedNumber? true (Numeral.decimalDigits n) = some (int (-n)) := by
  have hvalue := (Numeral.denotes_iff.1 (Numeral.denotes_decimalDigits n)).2.2
  have hsize : n ≤ Nat.pow 2 63 := h
  simp only [unsignedNumber?, takeWhile_decimalDigits, isWholePart_decimalDigits, hvalue]
  simp [hpos, hsize]

/-- An integer of 64 bits is read back from its numeral. -/
theorem number?_signedDecimal {n : Int} (hleast : -2 ^ 63 ≤ n) (hmost : n < 2 ^ 64) :
    number? (Numeral.signedDecimal n).toList = some (int n) := by
  rw [Numeral.signedDecimal, String.toList_ofList]
  split
  · rename_i hneg
    have h := unsignedNumber?_negative (n := n.natAbs) (by omega) (by omega)
    rw [number?, h, show -(n.natAbs : Int) = n by omega]
  · rename_i hneg
    have h := unsignedNumber?_natural (n := n.natAbs) (by omega)
    rw [show (n.natAbs : Int) = n by omega] at h
    rw [number?]
    · exact h
    · intro cs heq
      have hdigit := (Numeral.denotes_decimalDigits n.natAbs).isDigit '-' (by simp [heq])
      rw [Numeral.isDigit_minus] at hdigit
      cases hdigit

theorem isNumberChar_of_mem_signedDecimal {n : Int} :
    ∀ c ∈ (Numeral.signedDecimal n).toList, isNumberChar c = true := by
  intro c hc
  rw [Numeral.signedDecimal, String.toList_ofList] at hc
  have hdigits := (Numeral.denotes_decimalDigits n.natAbs).isDigit
  split at hc
  · rcases List.mem_cons.1 hc with rfl | hc
    · rfl
    · simp [isNumberChar, hdigits c hc]
  · simp [isNumberChar, hdigits c hc]

/-! ## Single tokens -/

/-- What follows a number ends it. -/
def EndsNumber (cs : List Char) : Prop :=
  ∀ c, cs.head? = some c → isNumberChar c = false

theorem ofChars?_blank {c : Char} (h : isBlank c = true) (cs : List Char) :
    Token.ofChars? (c :: cs) = Token.ofChars? cs := by
  rw [Token.ofChars?, if_pos h]

theorem ofChars?_of_first? {c : Char} {cs rest : List Char} {t : Token}
    (hblank : isBlank c = false) (h : Token.first? (c :: cs) = some (t, rest))
    (hle : rest.length ≤ cs.length) :
    Token.ofChars? (c :: cs) = (Token.ofChars? rest).map (t :: ·) := by
  rw [Token.ofChars?, hblank, h]
  exact if_pos hle

@[simp] theorem ofChars?_openArray (cs : List Char) :
    Token.ofChars? ('[' :: cs) = (Token.ofChars? cs).map (.openArray :: ·) :=
  ofChars?_of_first? rfl rfl (Nat.le_refl _)

@[simp] theorem ofChars?_closeArray (cs : List Char) :
    Token.ofChars? (']' :: cs) = (Token.ofChars? cs).map (.closeArray :: ·) :=
  ofChars?_of_first? rfl rfl (Nat.le_refl _)

@[simp] theorem ofChars?_openObject (cs : List Char) :
    Token.ofChars? ('\x7b' :: cs) = (Token.ofChars? cs).map (.openObject :: ·) :=
  ofChars?_of_first? rfl rfl (Nat.le_refl _)

@[simp] theorem ofChars?_closeObject (cs : List Char) :
    Token.ofChars? ('\x7d' :: cs) = (Token.ofChars? cs).map (.closeObject :: ·) :=
  ofChars?_of_first? rfl rfl (Nat.le_refl _)

@[simp] theorem ofChars?_comma (cs : List Char) :
    Token.ofChars? (',' :: cs) = (Token.ofChars? cs).map (.comma :: ·) :=
  ofChars?_of_first? rfl rfl (Nat.le_refl _)

@[simp] theorem ofChars?_colon (s : Spacing) (cs : List Char) :
    Token.ofChars? (s.colon ++ cs) = (Token.ofChars? cs).map (.colon :: ·) := by
  have hcolon (ds : List Char) :
      Token.ofChars? (':' :: ds) = (Token.ofChars? ds).map (.colon :: ·) :=
    ofChars?_of_first? rfl rfl (Nat.le_refl _)
  cases s with
  | compact => exact hcolon cs
  | pretty => exact (hcolon _).trans (congrArg _ (ofChars?_blank rfl cs))

@[simp] theorem ofChars?_lineBreak (s : Spacing) (depth : Nat) (cs : List Char) :
    Token.ofChars? (s.lineBreak depth ++ cs) = Token.ofChars? cs := by
  cases s with
  | compact => rfl
  | pretty =>
    have hspaces (n : Nat) :
        Token.ofChars? (List.replicate n ' ' ++ cs) = Token.ofChars? cs := by
      induction n with
      | zero => rfl
      | succ n ih => exact (ofChars?_blank rfl _).trans ih
    exact (ofChars?_blank rfl _).trans (hspaces _)

@[simp] theorem ofChars?_stringChars (s : String) (cs : List Char) :
    Token.ofChars? (stringChars s ++ cs) = (Token.ofChars? cs).map (.string s :: ·) := by
  have hread := readString_flatMap_escapeChar s.toList cs
  rw [stringChars, List.cons_append, List.cons_append, List.append_assoc, List.singleton_append]
  apply ofChars?_of_first? rfl
  · simp only [Token.first?, hread, Option.map_some, String.ofList_toList]
  · rw [List.length_append, List.length_cons]
    omega

theorem first?_of_isNumberChar {c : Char} (h : isNumberChar c = true) (cs : List Char) :
    Token.first? (c :: cs) =
      (number? ((c :: cs).takeWhile isNumberChar)).map
        (.scalar ·, (c :: cs).dropWhile isNumberChar) := by
  rw [Token.first?.eq_def]
  -- the other tokens start with characters that no number has
  split
  all_goals first
    | rfl
    | (rename_i heq
       cases heq
       exact absurd h (by decide))

/-- A number is a token if the character after it ends it. -/
theorem ofChars?_number {cs rest : List Char} {v : Json} (hcs : ∀ c ∈ cs, isNumberChar c = true)
    (h : number? cs = some v) (hne : cs ≠ []) (hrest : EndsNumber rest) :
    Token.ofChars? (cs ++ rest) = (Token.ofChars? rest).map (.scalar v :: ·) := by
  have htake : (cs ++ rest).takeWhile isNumberChar = cs := by
    rw [List.takeWhile_append_of_pos hcs]
    cases rest with
    | nil => simp
    | cons c rest => simp [hrest c rfl]
  have hdrop : (cs ++ rest).dropWhile isNumberChar = rest := by
    rw [List.dropWhile_append_of_pos hcs]
    cases rest with
    | nil => rfl
    | cons c rest => simp [hrest c rfl]
  cases cs with
  | nil => exact absurd rfl hne
  | cons c cs =>
    have hc := hcs c List.mem_cons_self
    have hblank : isBlank c = false := by
      by_contra hblank
      simp only [isBlank, Bool.or_eq_true, beq_iff_eq, Bool.not_eq_false] at hblank
      rcases hblank with ((rfl | rfl) | rfl) | rfl <;> exact absurd hc (by decide)
    rw [List.cons_append] at htake hdrop ⊢
    apply ofChars?_of_first? hblank
    · rw [first?_of_isNumberChar hc, htake, hdrop, h, Option.map_some]
    · simp

end TargetAbi.Json
