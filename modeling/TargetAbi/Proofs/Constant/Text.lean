import TargetAbi.Constant
import TargetAbi.Proofs.Lines

/-!
# Characters of constants

The text of a constant consists of visible ASCII: digits, a sign, a point, the letter of an exponent
and the words for infinities and NaNs. So it is one word on one line.
-/

set_option autoImplicit false

namespace TargetAbi

open Text

/-! ## Numbers -/

theorem Numeral.isVisible_of_mem_signedDecimal {i : Int} :
    ∀ c ∈ (Numeral.signedDecimal i).toList, isVisible c = true := by
  rw [Numeral.signedDecimal, String.toList_ofList]
  intro c hc
  split at hc
  · rcases List.mem_cons.1 hc with rfl | hdigit
    · decide
    · exact isVisible_of_mem_decimalDigits hdigit
  · exact isVisible_of_mem_decimalDigits hc

namespace Binary.NumberStyle

variable {s : NumberStyle} {ds : List Char}

theorem mem_of_mem_dropTrailingZeros {c : Char} (h : c ∈ dropTrailingZeros ds) : c ∈ ds := by
  have hreverse := (List.dropWhile_sublist _).subset (List.mem_reverse.1 h)
  exact List.mem_reverse.1 hreverse

/-- The point and the zeros that a positional numeral adds to its digits are visible. -/
theorem isVisible_of_mem_positionalDigits (hds : ∀ c ∈ ds, isVisible c = true) (top : Int) :
    ∀ c ∈ positionalDigits ds top, isVisible c = true := by
  intro c hc
  unfold positionalDigits at hc
  split at hc
  · simp only [List.mem_append, List.mem_cons] at hc
    rcases hc with (htake | hzeros) | rfl | hfraction
    · exact hds c (List.mem_of_mem_take htake)
    · rw [List.eq_of_mem_replicate hzeros]
      decide
    · decide
    · split at hfraction
      · rw [List.mem_singleton.1 hfraction]
        decide
      · exact hds c (List.mem_of_mem_drop hfraction)
  · simp only [List.mem_append, List.mem_cons] at hc
    rcases hc with (rfl | rfl | hzeros) | hdigit
    · decide
    · decide
    · rw [List.eq_of_mem_replicate hzeros]
      decide
    · exact hds c hdigit

/-- The point, the letter and the sign that an exponent form adds to its digits are visible. -/
theorem isVisible_of_mem_exponentDigits (hds : ∀ c ∈ ds, isVisible c = true) (plus : Bool)
    (top : Int) : ∀ c ∈ exponentDigits plus ds top, isVisible c = true := by
  have hsign : ∀ c ∈ (if top < 0 then ['-'] else if plus then ['+'] else []),
      isVisible c = true := by
    split
    · exact List.all_eq_true.1 (by decide)
    · cases plus <;> exact List.all_eq_true.1 (by decide)
  intro c hc
  simp only [exponentDigits, List.mem_append, List.mem_cons] at hc
  rcases hc with ((htake | hfraction) | rfl | hsigned) | hexponent
  · exact hds c (List.mem_of_mem_take htake)
  · split at hfraction
    · cases hfraction
    · rcases List.mem_cons.1 hfraction with rfl | hdrop
      · decide
      · exact hds c (List.mem_of_mem_drop hdrop)
  · decide
  · exact hsign c hsigned
  · exact isVisible_of_mem_decimalDigits hexponent

theorem isVisible_of_mem_decimal (d : Decimal) : ∀ c ∈ s.decimal d, isVisible c = true := by
  have hds : ∀ c ∈ dropTrailingZeros (Numeral.decimalDigits d.digits), isVisible c = true := by
    intro c hc
    exact isVisible_of_mem_decimalDigits (mem_of_mem_dropTrailingZeros hc)
  unfold decimal
  dsimp only
  split
  · exact isVisible_of_mem_positionalDigits hds _
  · exact isVisible_of_mem_exponentDigits hds _ _

theorem isVisible_of_mem_magnitude (f : Format) (m : Nat) :
    ∀ c ∈ s.magnitude f m, isVisible c = true := by
  unfold magnitude
  split
  · exact List.all_eq_true.1 (by decide)
  · split
    · exact List.all_eq_true.1 (by decide)
    · exact isVisible_of_mem_decimal _

theorem isVisible_of_mem_render (f : Format) (bits : Nat) :
    ∀ c ∈ s.render f bits, isVisible c = true := by
  unfold render
  dsimp only
  split
  · exact List.all_eq_true.1 (by decide)
  · split
    · intro c hc
      rcases List.mem_cons.1 hc with rfl | hmagnitude
      · decide
      · exact isVisible_of_mem_magnitude f _ c hmagnitude
    · exact isVisible_of_mem_magnitude f _

end Binary.NumberStyle

/-! ## Constants -/

namespace Constant

theorem isVisible_of_mem_text (c : Constant) : ∀ x ∈ c.text.toList, isVisible x = true := by
  cases c with
  | integer t b => exact Numeral.isVisible_of_mem_signedDecimal
  | float p b =>
    cases p with
    | f32 =>
      rw [text, String.toList_ofList]
      intro x hx
      rcases List.mem_append.1 hx with hnumber | hletter
      · exact Binary.NumberStyle.isVisible_of_mem_render _ _ x hnumber
      · rw [List.mem_singleton.1 hletter]
        decide
    | f64 =>
      rw [text, String.toList_ofList]
      exact Binary.NumberStyle.isVisible_of_mem_render _ _

/-- The text of a constant is on one line. -/
theorem isLine_text (c : Constant) : IsLine c.text :=
  isLine_of_isVisible c.isVisible_of_mem_text

end Constant

end TargetAbi
