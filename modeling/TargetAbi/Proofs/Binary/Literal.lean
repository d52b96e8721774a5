import TargetAbi.Binary.Literal
import TargetAbi.Proofs.Binary.Decimal

/-!
# Float literals

The grammar of decimal float literals: an optional sign, decimal digits with an optional point, one
at least, and an optional exponent (`FloatNumeral`). Such a text denotes a sign and an exact
rational number. The pattern that is read has this sign, and its magnitude is the number rounded
once to the nearest value of the format (`FloatNumeral.exists_readLiteral`).
-/

set_option autoImplicit false

namespace TargetAbi.Binary

open Numeral

/-! ## The grammar -/

/-- An optional sign, and whether it is a minus sign. -/
inductive SignPart : List Char → Bool → Prop
  | none : SignPart [] false
  | plus : SignPart ['+'] false
  | minus : SignPart ['-'] true

/-- An optional point, and the digits after it. -/
inductive PointPart : List Char → List Char → Prop
  | none : PointPart [] []
  | point (digits : List Char) : PointPart ('.' :: digits) digits

/-- An optional exponent, and its number. -/
inductive ExponentPart : List Char → Int → Prop
  | none : ExponentPart [] 0
  | letter {letter : Char} {sign digits : List Char} {negative : Bool} {n : Nat} :
      letter = 'e' ∨ letter = 'E' → SignPart sign negative → Denotes 10 digits n →
      ExponentPart (letter :: (sign ++ digits)) (if negative then -n else n)

/-- Decimal digits with an optional point, one at least, and an optional exponent; and the number
that they denote. -/
inductive UnsignedFloatNumeral : List Char → ℚ → Prop
  | mk {whole point fraction exponent : List Char} {n : Nat} {e : Int} :
      PointPart point fraction → Denotes 10 (whole ++ fraction) n → ExponentPart exponent e →
      UnsignedFloatNumeral (whole ++ (point ++ exponent)) (n * 10 ^ (e - fraction.length))

/-- A decimal float literal, whether it has a minus sign, and the number that it denotes without its
sign. -/
inductive FloatNumeral : List Char → Bool → ℚ → Prop
  | mk {sign body : List Char} {negative : Bool} {q : ℚ} :
      SignPart sign negative → UnsignedFloatNumeral body q → FloatNumeral (sign ++ body) negative q

/-! ## Reading the parts -/

variable {cs rest digits : List Char} {c : Char} {q : ℚ} {e : Int}

/-- Digits end where something else follows. -/
theorem spanDigits_append (hdigits : ∀ d ∈ digits, isDigit 10 d = true)
    (hrest : ∀ c, rest.head? = some c → isDigit 10 c = false) :
    spanDigits (digits ++ rest) = (digits, rest) := by
  have hnone : rest.takeWhile (isDigit 10) = [] ∧ rest.dropWhile (isDigit 10) = rest := by
    cases rest with
    | nil => exact ⟨rfl, rfl⟩
    | cons c rest => simp [hrest c rfl]
  rw [spanDigits, List.span_eq_takeWhile_dropWhile, List.takeWhile_append_of_pos hdigits,
    List.dropWhile_append_of_pos hdigits, hnone.1, hnone.2, List.append_nil]

/-- An exponent starts with its letter. -/
theorem ExponentPart.head? (h : ExponentPart cs e) :
    ∀ c, cs.head? = some c → c = 'e' ∨ c = 'E' := by
  intro c hc
  cases h with
  | none => cases hc
  | letter hletter =>
    cases hc
    exact hletter

/-- So it does not start with a digit. -/
theorem ExponentPart.isDigit_of_head? (h : ExponentPart cs e) :
    ∀ c, cs.head? = some c → isDigit 10 c = false := by
  intro c hc
  rcases h.head? c hc with rfl | rfl <;> rfl

/-- A sign is split from what does not start with a sign itself. -/
theorem SignPart.splitSign_append {sign body : List Char} {negative : Bool}
    (h : SignPart sign negative) (hplus : body.head? ≠ some '+') (hminus : body.head? ≠ some '-') :
    splitSign (sign ++ body) = (negative, body) := by
  cases h with
  | plus => rfl
  | minus => rfl
  | none =>
    show splitSign body = (false, body)
    unfold splitSign
    split
    · exact absurd rfl hminus
    · exact absurd rfl hplus
    · rfl

theorem head?_of_isDigit {n : Nat} (h : Denotes 10 (cs ++ digits) n) (hc : cs.head? = some c) :
    isDigit 10 c = true :=
  h.isDigit c (List.mem_append_left _ (List.mem_of_mem_head? hc))

/-- The exponent of a literal is read to its end. -/
theorem ExponentPart.readExponent_eq (h : ExponentPart cs e) : readExponent cs = some e := by
  cases h with
  | none => rfl
  | @letter letter sign digits negative n hletter hsign hdigits =>
    have hfirst (c : Char) (hc : isDigit 10 c = false) : digits.head? ≠ some c := by
      intro hhead
      rw [← List.append_nil digits] at hdigits
      rw [head?_of_isDigit hdigits hhead] at hc
      cases hc
    have hsplit := hsign.splitSign_append (hfirst '+' (by simp)) (hfirst '-' (by simp))
    have hall : digits.all (isDigit 10) = true := List.all_eq_true.2 hdigits.isDigit
    have hvalue : valueOf 10 digits = n := (denotes_iff.1 hdigits).2.2
    simp [readExponent, hletter, hsplit, hdigits.ne_nil, hall, hvalue]

/-! ## Reading a literal -/

/-- An unsigned numeral starts with a digit or a point. -/
theorem UnsignedFloatNumeral.head?_eq (h : UnsignedFloatNumeral cs q) :
    ∃ c, cs.head? = some c ∧ (isDigit 10 c = true ∨ c = '.') := by
  cases h with
  | @mk whole point fraction exponent n e hpoint hdigits hexponent =>
    cases whole with
    | cons c whole => exact ⟨c, rfl, Or.inl (hdigits.isDigit c List.mem_cons_self)⟩
    | nil =>
      cases hpoint with
      | none => exact absurd rfl hdigits.ne_nil
      | point => exact ⟨'.', rfl, Or.inr rfl⟩

/-- The digits after an optional point end where an exponent begins. -/
theorem PointPart.readFraction_append {point fraction exponent : List Char}
    (h : PointPart point fraction) (hfraction : ∀ d ∈ fraction, isDigit 10 d = true)
    (hexponent : ExponentPart exponent e) :
    readFraction (point ++ exponent) = (fraction, exponent) := by
  cases h with
  | none =>
    show readFraction exponent = ([], exponent)
    unfold readFraction
    split
    · rcases hexponent.head? '.' rfl with h | h <;> cases h
    · rfl
  | point => exact spanDigits_append hfraction hexponent.isDigit_of_head?

/-- The digits and the exponent of an unsigned numeral are those of the number that it denotes. -/
theorem UnsignedFloatNumeral.exists_readNumeral (h : UnsignedFloatNumeral cs q) :
    ∃ n : DecimalNumeral, readNumeral cs = some n ∧
      q = valueOf 10 (n.whole ++ n.fraction) * 10 ^ (n.exponent - n.fraction.length) := by
  cases h with
  | @mk whole point fraction exponent n e hpoint hdigits hexponent =>
    refine ⟨⟨whole, fraction, e⟩, ?_, by rw [(denotes_iff.1 hdigits).2.2]⟩
    have hall : ∀ d ∈ whole, isDigit 10 d = true := by
      intro d hd
      exact hdigits.isDigit d (List.mem_append_left _ hd)
    have hwhole : spanDigits (whole ++ (point ++ exponent)) = (whole, point ++ exponent) := by
      cases hpoint with
      | none => exact spanDigits_append hall hexponent.isDigit_of_head?
      | point =>
        apply spanDigits_append hall
        intro c hc
        cases hc
        rfl
    have hfraction : readFraction (point ++ exponent) = (fraction, exponent) := by
      apply hpoint.readFraction_append _ hexponent
      intro d hd
      exact hdigits.isDigit d (List.mem_append_right _ hd)
    have hne : ¬ (whole = [] ∧ fraction = []) := by
      rintro ⟨rfl, rfl⟩
      exact hdigits.ne_nil rfl
    simp [readNumeral, hwhole, hfraction, hne, hexponent.readExponent_eq]

/-- A digit is not the first letter of a special value, in either case. -/
theorem toLower_ne_of_isDigit (h : isDigit 10 c = true) : c.toLower ≠ 'i' ∧ c.toLower ≠ 'n' := by
  obtain ⟨hleast, hmost⟩ := toNat_of_isDigit_ten h
  have hall : ∀ d : Fin 10,
      (Char.ofNat (48 + d)).toLower ≠ 'i' ∧ (Char.ofNat (48 + d)).toLower ≠ 'n' := by decide
  have hc : Char.ofNat (48 + (c.toNat - 48)) = c := by
    rw [Nat.add_sub_cancel' hleast, Char.ofNat_toNat]
  rw [← hc]
  exact hall ⟨c.toNat - 48, by omega⟩

/-- No numeral is the name of a special value. -/
theorem UnsignedFloatNumeral.special?_eq_none (h : UnsignedFloatNumeral cs q) (f : Format) :
    special? f cs = none := by
  obtain ⟨c, hc, hfirst⟩ := h.head?_eq
  have hletter : c.toLower ≠ 'i' ∧ c.toLower ≠ 'n' := by
    rcases hfirst with hdigit | rfl
    · exact toLower_ne_of_isDigit hdigit
    · decide
  have hlower (name : List Char) (hi : name.head? = some 'i' ∨ name.head? = some 'n') :
      cs.map Char.toLower ≠ name := by
    rintro rfl
    rw [List.head?_map, hc, Option.map_some, Option.some.injEq, Option.some.injEq] at hi
    exact hi.elim hletter.1 hletter.2
  unfold special?
  dsimp only
  rw [if_neg, if_neg]
  · exact hlower _ (Or.inr rfl)
  · rintro (heq | heq)
    · exact hlower _ (Or.inl rfl) heq
    · exact hlower _ (Or.inl rfl) heq

/-- The pattern of a literal has its sign and the magnitude to which its number is rounded. -/
theorem FloatNumeral.exists_readLiteral {negative : Bool} (h : FloatNumeral cs negative q)
    {f : Format} (hf : f.IsInterchange) :
    ∃ m, f.readLiteral cs = .ok (f.withSign negative m) ∧ f.Rounds q m := by
  cases h with
  | @mk sign body negative q hsign hbody =>
    obtain ⟨c, hc, hfirst⟩ := hbody.head?_eq
    have hhead (d : Char) (hdigit : isDigit 10 d = false) (hpoint : d ≠ '.') :
        body.head? ≠ some d := by
      intro hd
      rw [hc, Option.some.injEq] at hd
      subst hd
      rcases hfirst with h | h
      · rw [hdigit] at h
        cases h
      · exact hpoint h
    have hsplit := hsign.splitSign_append (hhead '+' (by simp) (by decide))
      (hhead '-' (by simp) (by decide))
    have hne : sign ++ body ≠ [] := by
      intro hnil
      rw [(List.append_eq_nil_iff.1 hnil).2] at hc
      cases hc
    obtain ⟨n, hn, rfl⟩ := hbody.exists_readNumeral
    refine ⟨n.round f, ?_, Format.rounds_ofDecimal hf _ _⟩
    simp [Format.readLiteral, hne, hsplit, hbody.special?_eq_none f, hn]

end TargetAbi.Binary
