import TargetAbi.Proofs.Binary.Text
import TargetAbi.Proofs.Constant.Constructible
import TargetAbi.Proofs.Constant.Text
import TargetAbi.Proofs.Literal.Float

/-!
# Float constants read back

The text of a float constant is a number and then the suffix of its precision. Without the suffix it
is a literal of the same type, from which the constant is read again, bit for bit
(`float_text_read_back`). Only NaNs are written without their bits.
-/

set_option autoImplicit false

namespace TargetAbi

/-- What follows after the number in the text of a constant. -/
def FloatPrecision.suffix : FloatPrecision → String
  | f32 => "f"
  | f64 => ""

namespace Constant

variable {p : FloatPrecision} {b : UInt64}

theorem text_float (p : FloatPrecision) (b : UInt64) :
    (float p b).text =
      String.ofList (Binary.NumberStyle.constant.render p.format b.toNat) ++ p.suffix := by
  cases p with
  | f32 => exact String.ofList_append
  | f64 => exact String.append_empty.symm

/-- The word of a normal constant is a pattern of its format. -/
theorem toNat_lt_two_pow_width (h : (float p b).IsNormal) : b.toNat < 2 ^ p.format.width := by
  cases p with
  | f32 => exact toNat_bits_lt_of_isNormal h
  | f64 => exact b.toNat_lt

/-- The text of a float constant that is no NaN, without the suffix of its precision, is read as the
constant. -/
theorem float_text_read_back (hc : Constructible (float p b)) (hnan : ¬ p.format.IsNaN b.toNat) :
    ∃ number : String, (float p b).text = number ++ p.suffix ∧
      Constant.read number (float p b).type = .ok (float p b) := by
  refine ⟨_, text_float p b, ?_⟩
  have hread := Binary.NumberStyle.constant.readLiteral_render p.isInterchange_format
    (toNat_lt_two_pow_width hc.isNormal) hnan
  have hvisible := Binary.NumberStyle.isVisible_of_mem_render (s := .constant) p.format b.toNat
  show Constant.read _ p.toBasic = _
  rw [read_toBasic_float, String.toList_ofList, Text.trimBlank_eq_self_of_isVisible hvisible,
    FloatPrecision.readConstant, hread]
  show Except.ok (float p (UInt64.ofNat b.toNat)) = _
  rw [UInt64.ofNat_toNat]

/-- The least negative value of single precision that is not zero. -/
theorem float_text_read_back_subnormal :
    Constructible (.float32 0x80000001) ∧ (Constant.float32 0x80000001).text = "-1e-45f" ∧
      Constant.read "-1e-45" .float32 = .ok (.float32 0x80000001) := by
  have hc : Constructible (.float32 0x80000001) := .float32 0x80000001
  have hnan : ¬ FloatPrecision.f32.format.IsNaN (0x80000001 : UInt32).toUInt64.toNat := by
    rw [FloatPrecision.f32.isInterchange_format.isNaN_iff]
    decide
  have htext : (Constant.float32 0x80000001).text = "-1e-45f" := by decide +kernel
  obtain ⟨number, hnumber, hread⟩ := float_text_read_back hc hnan
  obtain rfl : "-1e-45" = number := by
    rw [← String.append_left_inj "f"]
    exact htext.symm.trans hnumber
  exact ⟨hc, htext, hread⟩

end Constant

end TargetAbi
