import TargetAbi.Proofs.Constant.Reinterpret
import TargetAbi.Proofs.Constant.Run
import TargetAbi.Proofs.Lines
import TargetAbi.Proofs.Literal.Integer

/-!
# The bits of a constant as a literal

`hexBits` writes the low bits of a constant as upper-case hexadecimal digits, two for every byte of
its type (`isPaddedHex_hexBits`). The text is a literal of every integer type of the same size, and
the constant that it denotes there has the low bits of the one that was written; so on a machine
that stores the least significant byte first it is reinterpreted as the constant that was written
(`hexBits_read_back`), and no reinterpretation changes the text.
-/

set_option autoImplicit false

namespace TargetAbi

open Numeral Text

/-- A text that is `0x` and the hexadecimal digits of `n`, in upper case and with leading zeros up
to the number of digits `width`. -/
def IsPaddedHex (text : String) (width n : Nat) : Prop :=
  ∃ ds, text.toList = '0' :: 'x' :: ds ∧ ds.length = width ∧ (∀ d ∈ ds, IsUpperHexDigit d) ∧
    Denotes 16 ds n

namespace Constant

variable {c d : Constant}

/-! ## The text -/

/-- The mask of the narrow constants leaves the low bits, and the word of a wide one has no
others. -/
theorem toNat_masked (c : Constant) :
    (if 2 * c.size.toNat = 8 then c.bits &&& 0xFFFFFFFF else c.bits).toNat = c.lowBits.toNat := by
  rw [toNat_lowBits]
  rcases c.size_eq with hsize | hsize
  · rw [hsize, if_pos (by decide), UInt64.toNat_and]
    exact Nat.and_two_pow_sub_one_eq_mod c.bits.toNat 32
  · rw [hsize, if_neg (by decide)]
    exact (Nat.mod_eq_of_lt c.bits.toNat_lt).symm

/-- Two hexadecimal digits make a byte. -/
theorem toNat_lowBits_lt (c : Constant) : c.lowBits.toNat < 16 ^ (2 * c.size.toNat) := by
  have hpow : 16 ^ (2 * c.size.toNat) = 256 ^ c.size.toNat := by rw [Nat.pow_mul]
  rw [toNat_lowBits, hpow]
  exact Nat.mod_lt _ (Nat.pow_pos (by decide))

theorem toList_hexBits (c : Constant) :
    c.hexBits.toList = '0' :: 'x' :: hexFixed (2 * c.size.toNat) c.lowBits.toNat := by
  have hsize := c.size_pos
  rw [hexBits, String.toList_ofList, toNat_masked,
    hexFixed_eq_hexPadded (by omega) c.toNat_lowBits_lt]

theorem denotes_hexBits (c : Constant) :
    Denotes 16 (hexFixed (2 * c.size.toNat) c.lowBits.toNat) c.lowBits.toNat := by
  have hsize := c.size_pos
  have hwidth : 2 * c.size.toNat ≠ 0 := by omega
  have hdenotes := denotes_hexFixed hwidth c.lowBits.toNat
  rwa [Nat.mod_eq_of_lt c.toNat_lowBits_lt] at hdenotes

theorem isPaddedHex_hexBits (c : Constant) :
    IsPaddedHex c.hexBits (2 * c.size.toNat) c.lowBits.toNat := by
  refine ⟨_, c.toList_hexBits, length_hexFixed _ _, ?_, c.denotes_hexBits⟩
  intro x hx
  obtain ⟨m, rfl⟩ := exists_of_mem_hexFixed hx
  exact isUpperHexDigit_hexDigit m

theorem isVisible_of_isDigit {base : Nat} {x : Char} (h : isDigit base x = true) :
    isVisible x = true := by
  obtain ⟨hleast, hmost⟩ := toNat_of_isDigit h
  exact isVisible_iff.2 ⟨by omega, by omega⟩

theorem isVisible_of_mem_hexBits (c : Constant) :
    ∀ x ∈ c.hexBits.toList, isVisible x = true := by
  rw [toList_hexBits]
  intro x hx
  rcases List.mem_cons.1 hx with rfl | hx
  · decide
  · rcases List.mem_cons.1 hx with rfl | hdigit
    · decide
    · exact isVisible_of_isDigit (c.denotes_hexBits.isDigit x hdigit)

/-- The text depends on the size and the low bits only. -/
theorem hexBits_congr (hsize : c.size = d.size) (hlow : c.lowBits.toNat = d.lowBits.toNat) :
    c.hexBits = d.hexBits := by
  rw [← String.toList_inj, toList_hexBits, toList_hexBits, hlow, hsize]

/-! ## The text as a literal -/

theorem trimBlank_hexBits (c : Constant) : trimBlank c.hexBits.toList = c.hexBits.toList :=
  trimBlank_eq_self_of_isVisible c.isVisible_of_mem_hexBits

theorem filter_hexFixed (width n : Nat) :
    (hexFixed width n).filter (· != '_') = hexFixed width n := by
  apply List.filter_eq_self.2
  intro x hx
  obtain ⟨m, rfl⟩ := exists_of_mem_hexFixed hx
  have hdigit : isDigit 16 (hexDigit m) = true := isDigit_iff.2 ⟨_, digitValue?_hexDigit m⟩
  rw [bne_iff_ne]
  intro heq
  rw [heq, isDigit_underscore] at hdigit
  cases hdigit

/-- The text is a literal of every integer type of the size of the constant, for a constant with the
same low bits. -/
theorem exists_read_hexBits (c : Constant) {t : IntegerType} (ht : t.size = c.size) :
    ∃ k, Constant.read c.hexBits t.toBasic = .ok k ∧ k.size = c.size ∧
      k.lowBits.toNat = c.lowBits.toNat := by
  -- there is nothing to trim and no underscore, so the digits themselves are the numeral
  have hbody : IntegerType.IsHexadecimal (Text.trimBlank c.hexBits.toList)
      (hexFixed (2 * c.size.toNat) c.lowBits.toNat) := by
    rw [trimBlank_hexBits, toList_hexBits]
    exact Or.inl rfl
  have hnumeral : UnsignedNumeral 16
      ((hexFixed (2 * c.size.toNat) c.lowBits.toNat).filter (· != '_')) c.lowBits.toNat := by
    rw [filter_hexFixed]
    exact .bare c.denotes_hexBits
  have hlt : c.lowBits.toNat < 2 ^ t.width := by
    rw [IntegerType.width, ht]
    exact c.lowBits.isLt
  exact ⟨_, (read_hexadecimal_eq_ok_iff hbody).2 ⟨_, hnumeral, hlt, rfl⟩, ht,
    toNat_lowBits_extend_ofNat hlt⟩

/-- On a machine that stores the least significant byte first, a constant with the same low bits is
reinterpreted as the constant itself. -/
theorem reinterpret_eq_ok_of_lowBits (hd : d.IsNormal) (hsize : c.size = d.size)
    (hlow : c.lowBits.toNat = d.lowBits.toNat) : c.reinterpret .leastFirst d.type = .ok d := by
  refine (reinterpret_eq_ok_iff .leastFirst c d d.type).2
    ⟨type_mem_types d, ?_, rfl, hd, ?_⟩
  · rw [naturalSize_type, hsize]
  · rw [image_eq_bytes_lowBits, image_eq_bytes_lowBits, BasicType.byteOrder_leastFirst,
      BasicType.byteOrder_leastFirst, hlow, hsize]

theorem hexBits_of_reinterpret_leastFirst {t : BasicType}
    (h : c.reinterpret .leastFirst t = .ok d) : d.hexBits = c.hexBits := by
  have hlow : d.lowBits.toNat = c.lowBits.toNat := by
    rw [toNat_lowBits_of_reinterpret h, ← ofBytes_image .leastFirst c,
      BasicType.byteOrder_leastFirst, BasicType.byteOrder_leastFirst]
  exact hexBits_congr (size_eq_of_image_eq (image_of_reinterpret h)) hlow

/-- The text of the bits of a constant has two upper-case digits for every byte, which denote its
low bits. On a machine that stores the least significant byte first, the text read as any integer
type of the same size gives a constant that is reinterpreted as the one that was written, and no
reinterpretation changes the text. -/
theorem hexBits_read_back {c : Constant} (hc : Constructible c) :
    IsPaddedHex c.hexBits (2 * c.size.toNat) c.lowBits.toNat ∧
      (∀ t : IntegerType, t.size = c.size →
        ∃ k, Constant.read c.hexBits t.toBasic = .ok k ∧
          k.reinterpret .leastFirst c.type = .ok c) ∧
      ∀ t d, c.reinterpret .leastFirst t = .ok d → d.hexBits = c.hexBits := by
  refine ⟨isPaddedHex_hexBits c, ?_, fun t d => hexBits_of_reinterpret_leastFirst⟩
  intro t ht
  obtain ⟨k, hk, hsize, hlow⟩ := exists_read_hexBits c ht
  exact ⟨k, hk, reinterpret_eq_ok_of_lowBits hc.isNormal hsize hlow⟩

/-- The text of `-1` has eight digits although its word has sixteen, and `int32` reads it back. -/
theorem hexBits_read_back_minus_one :
    Constructible (int32 (-1)) ∧ (int32 (-1)).hexBits = "0xFFFFFFFF" ∧
      ∃ k, Constant.read (int32 (-1)).hexBits .int32 = .ok k ∧
        k.reinterpret .leastFirst .int32 = .ok (int32 (-1)) := by
  have hc : Constructible (int32 (-1)) := .int32 (-1)
  exact ⟨hc, rfl, (hexBits_read_back hc).2.1 .int32 rfl⟩

end Constant

end TargetAbi
