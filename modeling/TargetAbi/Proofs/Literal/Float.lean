import TargetAbi.Proofs.Binary.Literal
import TargetAbi.Proofs.Blank
import TargetAbi.Proofs.Constant.NormalForm

/-!
# Constants of float literals

A float literal without the white space around it denotes a sign and an exact rational number. The
constant that is read has the sign, and its magnitude is the number rounded once to the nearest
value of the type that is asked for (`read_float_literal`).
-/

set_option autoImplicit false

namespace TargetAbi

open Numeral

namespace FloatPrecision

theorem width_format_le (p : FloatPrecision) : p.format.width ≤ 64 := by
  cases p <;> decide

/-- The constant of a pattern has the pattern as its word. -/
theorem toNat_ofNat_withSign (p : FloatPrecision) (negative : Bool) {m : Nat}
    (hm : m ≤ p.format.infinity) :
    (UInt64.ofNat (p.format.withSign negative m)).toNat = p.format.withSign negative m := by
  have hsign := p.isInterchange_format.infinity_lt_signBit
  have hlt := Binary.Format.withSign_lt negative (Nat.lt_of_le_of_lt hm hsign)
  rw [← p.isInterchange_format.two_pow_width] at hlt
  have hpow : 2 ^ p.format.width ≤ 2 ^ 64 := Nat.pow_le_pow_right (by decide) p.width_format_le
  rw [UInt64.toNat_ofNat']
  exact Nat.mod_eq_of_lt (Nat.lt_of_lt_of_le hlt hpow)

end FloatPrecision

namespace Constant

variable {p : FloatPrecision} {text : String} {s : List Char}

theorem read_toBasic_float (p : FloatPrecision) (text : String) :
    Constant.read text p.toBasic = p.readConstant (Text.trimBlank text.toList) := by
  cases p <;> rfl

/-- A float literal is rounded once, directly to the type that is asked for. Without the white space
at its ends the text is a decimal literal for a sign and an exact number `q`; the constant is of the
type, has the sign, and its magnitude is the one to which `q` is rounded: the nearest finite one,
the even one of two, or infinity from the overflow threshold on. -/
theorem read_float_literal {negative : Bool} {q : ℚ} (hs : Text.IsTrimmed text.toList s)
    (hq : Binary.FloatNumeral s negative q) :
    ∃ b : UInt64, Constant.read text p.toBasic = .ok (.float p b) ∧ b.toNat < 2 ^ p.format.width ∧
      p.format.isNegative b.toNat = negative ∧ p.format.Rounds q (p.format.magnitude b.toNat) := by
  have hf := p.isInterchange_format
  obtain ⟨m, hm, hround⟩ := hq.exists_readLiteral hf
  have hword := p.toNat_ofNat_withSign negative hround.le_infinity
  have hsign := Nat.lt_of_le_of_lt hround.le_infinity hf.infinity_lt_signBit
  refine ⟨UInt64.ofNat (p.format.withSign negative m), ?_, ?_, ?_, ?_⟩
  · rw [read_toBasic_float, Text.trimBlank_eq_iff.2 hs, FloatPrecision.readConstant, hm]
  · rw [hword, hf.two_pow_width]
    exact Binary.Format.withSign_lt negative hsign
  · rw [hword, Binary.Format.isNegative_withSign negative hsign]
  · rw [hword, Binary.Format.magnitude_withSign negative hsign]
    exact hround

/-- The number lies just below the middle of two values of single precision. In double precision it
is rounded to this middle, from which a second rounding would go to the upper value. -/
theorem read_float_literal_below_middle :
    Constant.read "\t1.00000017881393432617187499\n" .float32 = .ok (.float .f32 0x3F800001) ∧
      Binary.single.Rounds (100000017881393432617187499 * 10 ^ (-26 : Int)) 0x3F800001 ∧
      Constant.read "1.00000017881393432617187499" .float64 =
        .ok (.float .f64 0x3FF0000030000000) ∧
      Binary.double.convertPattern Binary.single 0x3FF0000030000000 = 0x3F800002 := by
  have hs : Text.IsTrimmed "\t1.00000017881393432617187499\n".toList
      "1.00000017881393432617187499".toList := Text.trimBlank_eq_iff.1 (by decide)
  have hdigits : Denotes 10 ("1".toList ++ "00000017881393432617187499".toList)
      100000017881393432617187499 :=
    denotes_iff.2 ⟨by decide, List.all_eq_true.1 (by decide), by decide⟩
  have hq : Binary.FloatNumeral "1.00000017881393432617187499".toList false
      (100000017881393432617187499 * 10 ^ (-26 : Int)) :=
    .mk .none (.mk (.point "00000017881393432617187499".toList) hdigits .none)
  obtain ⟨b, hread, -, -, hround⟩ := read_float_literal (p := .f32) hs hq
  have hdirect : Constant.read "\t1.00000017881393432617187499\n" .float32 =
      .ok (.float .f32 0x3F800001) := rfl
  obtain rfl : b = 0x3F800001 := by
    have heq := hread.symm.trans hdirect
    injection heq with heq
    injection heq
  exact ⟨hdirect, hround, by decide +kernel, by decide +kernel⟩

end Constant

end TargetAbi
