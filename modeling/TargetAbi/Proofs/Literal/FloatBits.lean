import TargetAbi.Json.Encoding
import TargetAbi.Proofs.Literal.HexBits
import TargetAbi.Toml.Printer

/-!
# The bits of a float

The properties of a precision are written with the patterns of their NaNs and infinities, by
`FloatProperties.bitsHex`; the paint command writes the bits of a constant, by `Constant.hexBits`.
For a float both write the same: `0x` and the hexadecimal numeral of the pattern, after zeros up to
the width of the precision (`toList_bitsHex`). The unsigned integer type of that width reads the
pattern back from the text, so no two patterns have the same text (`bitsHex_lossless`).
-/

set_option autoImplicit false

namespace TargetAbi

open Numeral

/-- The unsigned integer type that has the patterns of a precision as its numbers. -/
def FloatPrecision.unsignedType : FloatPrecision → IntegerType
  | f32 => .uns32
  | f64 => .uns64

namespace FloatProperties

variable {p : FloatPrecision} {bits other : UInt64}

theorem digitCount_ne_zero (p : FloatPrecision) : digitCount p ≠ 0 := by
  cases p <;> decide

theorem sixteen_pow_digitCount (p : FloatPrecision) :
    16 ^ digitCount p = 2 ^ p.format.width := by
  cases p <;> decide

theorem width_unsignedType (p : FloatPrecision) : p.unsignedType.width = p.format.width := by
  cases p <;> rfl

/-- The text of a pattern is `0x` and its numeral, after zeros up to the width of the precision. -/
theorem toList_bitsHex (p : FloatPrecision) (bits : UInt64) :
    (bitsHex p bits).toList = '0' :: 'x' :: hexPadded (digitCount p) bits.toNat := by
  rw [bitsHex, String.toList_ofList]

/-- A pattern of the width needs no more digits than the zeros leave room for. -/
theorem toList_bitsHex_eq_hexFixed (h : bits.toNat < 2 ^ p.format.width) :
    (bitsHex p bits).toList = '0' :: 'x' :: hexFixed (digitCount p) bits.toNat := by
  rw [← sixteen_pow_digitCount] at h
  rw [toList_bitsHex, hexFixed_eq_hexPadded (digitCount_ne_zero p) h]

theorem toNat_lowBits_float (h : bits.toNat < 2 ^ p.format.width) :
    (Constant.float p bits).lowBits.toNat = bits.toNat := by
  have hpow : 256 ^ (Constant.float p bits).size.toNat = 2 ^ p.format.width := by
    cases p <;> rfl
  rw [Constant.toNat_lowBits, hpow]
  exact Nat.mod_eq_of_lt h

/-- Both writers give a byte two digits. -/
theorem bitsHex_eq_hexBits (h : bits.toNat < 2 ^ p.format.width) :
    bitsHex p bits = (Constant.float p bits).hexBits := by
  have hwidth : 2 * (Constant.float p bits).size.toNat = digitCount p := by
    cases p <;> rfl
  rw [← String.toList_inj, toList_bitsHex_eq_hexFixed h, Constant.toList_hexBits,
    toNat_lowBits_float h, hwidth]

/-- There are as many digits as the precision is wide, and they denote the pattern. -/
theorem isPaddedHex_bitsHex (h : bits.toNat < 2 ^ p.format.width) :
    IsPaddedHex (bitsHex p bits) (digitCount p) bits.toNat := by
  have hwidth : 2 * (Constant.float p bits).size.toNat = digitCount p := by
    cases p <;> rfl
  have hpadded := (Constant.float p bits).isPaddedHex_hexBits
  rwa [hwidth, toNat_lowBits_float h, ← bitsHex_eq_hexBits h] at hpadded

/-- The unsigned type of the same width reads the pattern back. -/
theorem readWord_bitsHex (h : bits.toNat < 2 ^ p.format.width) :
    p.unsignedType.readWord (bitsHex p bits).toList = .ok bits := by
  have hlist := toList_bitsHex_eq_hexFixed h
  have hdenotes := denotes_hexFixed (digitCount_ne_zero p) bits.toNat
  rw [sixteen_pow_digitCount, Nat.mod_eq_of_lt h] at hdenotes
  rw [IntegerType.readWord_hexadecimal_eq_ok_iff (Or.inl hlist), Constant.filter_hexFixed,
    width_unsignedType]
  exact ⟨bits.toNat, .bare hdenotes, h, UInt64.ofNat_toNat⟩

/-- No two patterns have the same text. -/
theorem eq_of_bitsHex_eq (h : bits.toNat < 2 ^ p.format.width)
    (hother : other.toNat < 2 ^ p.format.width) (heq : bitsHex p bits = bitsHex p other) :
    bits = other := by
  have hread := readWord_bitsHex h
  rw [heq, readWord_bitsHex hother] at hread
  exact (Except.ok.inj hread).symm

/-! ## Written properties -/

/-- The properties that are written as patterns, under their names. -/
def patterns (properties : FloatProperties) : List (String × UInt64) :=
  [("nan", properties.nan), ("snan", properties.snan), ("infinity", properties.infinity)]

/-- In JSON and in TOML the field of each of these properties is the text of its pattern. -/
theorem lookup_patterns (properties : FloatProperties) :
    ∃ fields, properties.toJson = .obj fields ∧ ∀ name bits, (name, bits) ∈ properties.patterns →
      fields.lookup name = some (.str (bitsHex properties.precision bits)) ∧
        properties.tomlFields.lookup name =
          some (.string (bitsHex properties.precision bits)) := by
  refine ⟨_, rfl, ?_⟩
  intro name bits hmem
  simp only [patterns, List.mem_cons, List.not_mem_nil, or_false, Prod.mk.injEq] at hmem
  rcases hmem with ⟨rfl, rfl⟩ | ⟨rfl, rfl⟩ | ⟨rfl, rfl⟩
  · exact ⟨rfl, rfl⟩
  · exact ⟨rfl, rfl⟩
  · exact ⟨rfl, rfl⟩

/-- The text of a pattern of 32 or 64 bits is that of the float constant with this pattern: `0x` and
eight or sixteen digits, the numeral of the pattern after zeros. The unsigned type of the same width
reads the pattern back, and different patterns have different texts. The fields of NaNs and
infinities in JSON and in TOML are texts of this form. -/
theorem bitsHex_lossless :
    (∀ b : UInt32,
      bitsHex .f32 b.toUInt64 = (Constant.float32 b).hexBits ∧
        (bitsHex .f32 b.toUInt64).toList = '0' :: 'x' :: hexPadded 8 b.toNat ∧
        IsPaddedHex (bitsHex .f32 b.toUInt64) 8 b.toNat ∧
        IntegerType.uns32.readWord (bitsHex .f32 b.toUInt64).toList = .ok b.toUInt64) ∧
      (∀ b : UInt64,
        bitsHex .f64 b = (Constant.float64 b).hexBits ∧
          (bitsHex .f64 b).toList = '0' :: 'x' :: hexPadded 16 b.toNat ∧
          IsPaddedHex (bitsHex .f64 b) 16 b.toNat ∧
          IntegerType.uns64.readWord (bitsHex .f64 b).toList = .ok b) ∧
      (Function.Injective fun b : UInt32 => bitsHex .f32 b.toUInt64) ∧
      Function.Injective (bitsHex .f64) ∧
      ∀ properties : FloatProperties, ∃ fields, properties.toJson = .obj fields ∧
        ∀ name bits, (name, bits) ∈ properties.patterns →
          fields.lookup name = some (.str (bitsHex properties.precision bits)) ∧
            properties.tomlFields.lookup name =
              some (.string (bitsHex properties.precision bits)) := by
  have hsingle (b : UInt32) : b.toUInt64.toNat < 2 ^ FloatPrecision.f32.format.width :=
    b.toNat_lt
  have hdouble (b : UInt64) : b.toNat < 2 ^ FloatPrecision.f64.format.width := b.toNat_lt
  refine ⟨?_, ?_, ?_, ?_, lookup_patterns⟩
  · intro b
    exact ⟨bitsHex_eq_hexBits (hsingle b), toList_bitsHex _ _, isPaddedHex_bitsHex (hsingle b),
      readWord_bitsHex (p := .f32) (hsingle b)⟩
  · intro b
    exact ⟨bitsHex_eq_hexBits (hdouble b), toList_bitsHex _ _, isPaddedHex_bitsHex (hdouble b),
      readWord_bitsHex (p := .f64) (hdouble b)⟩
  · intro b c h
    have hword : b.toUInt64 = c.toUInt64 := eq_of_bitsHex_eq (hsingle b) (hsingle c) h
    exact UInt32.toUInt64_inj.1 hword
  · intro b c h
    exact eq_of_bitsHex_eq (hdouble b) (hdouble c) h

/-- The signalling NaN of single precision as it is written in JSON. -/
theorem bitsHex_lossless_signalling :
    ("snan", 0x7FA00000) ∈ (FloatProperties.of .f32).patterns ∧
      bitsHex .f32 0x7FA00000 = "0x7FA00000" ∧
      ∃ fields, (FloatProperties.of .f32).toJson = .obj fields ∧
        fields.lookup "snan" = some (.str "0x7FA00000") := by
  obtain ⟨-, -, -, -, hwritten⟩ := bitsHex_lossless
  obtain ⟨fields, hfields, hpatterns⟩ := hwritten (FloatProperties.of .f32)
  have hmem : ("snan", 0x7FA00000) ∈ (FloatProperties.of .f32).patterns := by decide
  exact ⟨hmem, rfl, fields, hfields, (hpatterns _ _ hmem).1⟩

end FloatProperties

end TargetAbi
