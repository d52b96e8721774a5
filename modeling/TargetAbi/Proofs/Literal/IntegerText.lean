import TargetAbi.Proofs.Constant.Text
import TargetAbi.Proofs.Literal.Integer

/-!
# The text of an integer constant as a literal

The text of an integer constant is the decimal numeral of its number. So it is a literal of the type
of the constant, and the constant that it denotes is the one that was written. This also holds with
underscores put in anywhere (`WithUnderscores`) and with white space around
(`integer_text_read_back`).
-/

set_option autoImplicit false

namespace TargetAbi

open Numeral Text

/-! ## Texts with underscores -/

/-- `s` is `cs` with any number of underscores put in anywhere. -/
inductive WithUnderscores : List Char → List Char → Prop where
  | nil : WithUnderscores [] []
  | keep {c : Char} {cs s : List Char} : WithUnderscores cs s → WithUnderscores (c :: cs) (c :: s)
  | underscore {cs s : List Char} : WithUnderscores cs s → WithUnderscores cs ('_' :: s)

theorem WithUnderscores.eq_underscore_or_mem {cs s : List Char} (h : WithUnderscores cs s) :
    ∀ c ∈ s, c = '_' ∨ c ∈ cs := by
  induction h with
  | nil =>
    intro c hc
    exact Or.inr hc
  | @keep d cs s _ ih =>
    intro c hc
    rcases List.mem_cons.1 hc with rfl | hmem
    · exact Or.inr List.mem_cons_self
    · exact (ih c hmem).imp_right (List.mem_cons_of_mem d)
  | underscore _ ih =>
    intro c hc
    rcases List.mem_cons.1 hc with rfl | hmem
    · exact Or.inl rfl
    · exact ih c hmem

/-- Without its underscores the text is what it was. -/
theorem WithUnderscores.filter_eq {cs s : List Char} (h : WithUnderscores cs s)
    (hcs : '_' ∉ cs) : s.filter (· != '_') = cs := by
  induction h with
  | nil => rfl
  | @keep c cs s _ ih =>
    obtain ⟨hc, hrest⟩ := not_or.1 (mt List.mem_cons.2 hcs)
    have hkept : (c != '_') = true := bne_iff_ne.2 fun heq => hc heq.symm
    simp only [List.filter_cons, hkept, if_true, ih hrest]
  | underscore _ ih =>
    simp [ih hcs]

/-! ## Texts of integer constants -/

namespace Constant

variable {t : IntegerType} {b : UInt64}

/-- The text of an integer constant denotes its number. -/
theorem integerNumeral_text (t : IntegerType) (b : UInt64) :
    IntegerNumeral t.signedness (integer t b).text.toList (t.valueOf b) := by
  apply integerNumeral_signedDecimal
  intro ht
  rw [IntegerType.valueOf, ht]
  exact Int.natCast_nonneg _

theorem not_mem_text_integer {c : Char} (hplus : c ≠ '+') (hminus : c ≠ '-')
    (hdigit : isDigit 10 c = false) : c ∉ (integer t b).text.toList := by
  intro hc
  rcases (integerNumeral_text t b).isSign_or_isDigit c hc with h | h | h
  · exact hplus h
  · exact hminus h
  · rw [hdigit] at h
    cases h

/-- No text of an integer constant looks like a hexadecimal literal, with underscores or without. -/
theorem not_isHexadecimal_of_withUnderscores {s : List Char}
    (hs : WithUnderscores (integer t b).text.toList s) (body : List Char) :
    ¬ IntegerType.IsHexadecimal s body := by
  have hletter (c : Char) (hunderscore : c ≠ '_') (hplus : c ≠ '+') (hminus : c ≠ '-')
      (hdigit : isDigit 10 c = false) : c ∉ s := by
    intro hc
    rcases hs.eq_underscore_or_mem c hc with h | h
    · exact hunderscore h
    · exact not_mem_text_integer hplus hminus hdigit h
  rintro (rfl | rfl)
  · exact hletter 'x' (by decide) (by decide) (by decide) (by decide) (by simp)
  · exact hletter 'X' (by decide) (by decide) (by decide) (by decide) (by simp)

/-- White space around a text of visible characters and underscores is what trimming removes. -/
theorem trimBlank_of_withUnderscores {s front back : List Char}
    (hs : WithUnderscores (integer t b).text.toList s)
    (hfront : ∀ c ∈ front, isBlank c = true) (hback : ∀ c ∈ back, isBlank c = true) :
    trimBlank (front ++ s ++ back) = s := by
  have hvisible : ∀ c ∈ s, isBlank c = false := by
    intro c hc
    apply isBlank_of_isVisible
    rcases hs.eq_underscore_or_mem c hc with rfl | hmem
    · decide
    · exact isVisible_of_mem_text _ c hmem
  refine trimBlank_eq_iff.2 ⟨⟨front, back, rfl, hfront, hback⟩, ?_, ?_⟩
  · intro c hc
    exact hvisible c (List.mem_of_mem_head? hc)
  · intro c hc
    exact hvisible c (List.mem_of_getLast? hc)

/-- The text of an integer constant, with any underscores in it and any white space around, is read
as the constant. -/
theorem integer_text_read_back {text : String} {s front back : List Char}
    (hc : Constructible (integer t b)) (hs : WithUnderscores (integer t b).text.toList s)
    (hfront : ∀ c ∈ front, isBlank c = true) (hback : ∀ c ∈ back, isBlank c = true)
    (htext : text.toList = front ++ s ++ back) :
    Constant.read text (integer t b).type = .ok (integer t b) := by
  have htrim : trimBlank text.toList = s := by
    rw [htext]
    exact trimBlank_of_withUnderscores hs hfront hback
  have hfilter : s.filter (· != '_') = (integer t b).text.toList :=
    hs.filter_eq (not_mem_text_integer (by decide) (by decide) (isDigit_underscore 10))
  have hdecimal : ∀ body, ¬ IntegerType.IsHexadecimal (trimBlank text.toList) body := by
    rw [htrim]
    exact not_isHexadecimal_of_withUnderscores hs
  refine (read_decimal_eq_ok_iff hdecimal).2 ⟨t.valueOf b, ?_, ?_, ?_⟩
  · rw [htrim, hfilter]
    exact integerNumeral_text t b
  · exact IntegerType.inRange_valueOf hc.isNormal
  · rw [IntegerType.extend_ofInt_valueOf hc.isNormal]

/-- The least signed number of 32 bits, whose magnitude no number of the type has, between an
ideographic space and a line feed. -/
theorem integer_text_read_back_least :
    Constructible (int32 (-2147483648)) ∧ (int32 (-2147483648)).text = "-2147483648" ∧
      Constant.read "\u3000_-2_147_483_648\n" .int32 = .ok (int32 (-2147483648)) := by
  have hc : Constructible (int32 (-2147483648)) := .int32 (-2147483648)
  have htext : (int32 (-2147483648)).text.toList =
      ['-', '2', '1', '4', '7', '4', '8', '3', '6', '4', '8'] := rfl
  have hs : WithUnderscores (int32 (-2147483648)).text.toList
      ['_', '-', '2', '_', '1', '4', '7', '_', '4', '8', '3', '_', '6', '4', '8'] := by
    rw [htext]
    exact .underscore (.keep (.keep (.underscore (.keep (.keep (.keep (.underscore (.keep (.keep
      (.keep (.underscore (.keep (.keep (.keep .nil))))))))))))))
  have hfront : ∀ c ∈ ['\u3000'], isBlank c = true := List.all_eq_true.1 (by decide)
  have hback : ∀ c ∈ ['\n'], isBlank c = true := List.all_eq_true.1 (by decide)
  exact ⟨hc, rfl, integer_text_read_back hc hs hfront hback rfl⟩

end Constant

end TargetAbi
