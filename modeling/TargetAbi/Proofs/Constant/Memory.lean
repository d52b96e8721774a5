import TargetAbi.Proofs.ByteOrder
import TargetAbi.Proofs.Constant.NormalForm

/-!
# Constants in memory

The image of a constant is the list of bytes that `Scratch.encode` leaves at the front of the
buffer (`encode_eq_write_image`): its low bits, in the byte order of its type. A reinterpretation
reads this image as another type. `reinterpret_cases` lists what it can do, and
`reinterpret_eq_ok_iff` is its specification: the result is the normal constant of the asked type
with the same image, and there is one exactly when constants have that type and its natural size is
the size of the source.
-/

set_option autoImplicit false

namespace TargetAbi

/-- The order in which the bytes of a type stand in memory: floats follow the machine. -/
def BasicType.byteOrder (order : ByteOrder) (t : BasicType) : ByteOrder :=
  if t.isFloat then order else .leastFirst

theorem IntegerType.byteOrder_toBasic (order : ByteOrder) (t : IntegerType) :
    t.toBasic.byteOrder order = .leastFirst := by
  cases t <;> rfl

theorem FloatPrecision.byteOrder_toBasic (order : ByteOrder) (p : FloatPrecision) :
    p.toBasic.byteOrder order = order := by
  cases p <;> rfl

/-- The bytes of a constant in memory. -/
def Constant.image (order : ByteOrder) (c : Constant) : List UInt8 :=
  (c.type.byteOrder order).bytes c.size.toNat c.bits.toNat

namespace Constant

variable (order : ByteOrder)

@[simp] theorem length_image (c : Constant) : (c.image order).length = c.size.toNat :=
  ByteOrder.length_bytes _ _ _

theorem toNat_lowBits (c : Constant) : c.lowBits.toNat = c.bits.toNat % 256 ^ c.size.toNat := by
  rw [← ByteOrder.two_pow_eight_mul]
  exact BitVec.toNat_setWidth _ _

/-- The word of a normal constant of an unsigned type or of a float type fits in the bytes of the type. -/
theorem bits_lt_of_unsigned {c : Constant} (hc : c.IsNormal) (ht : c.type.isSigned = false) :
    c.bits.toNat < 256 ^ c.size.toNat := by
  have hwidth : 8 * c.size.toNat ≤ 64 := Nat.mul_le_mul_left 8 c.size_le_eight
  rw [hc, BasicType.toNat_widen_of_unsigned ht hwidth, ← ByteOrder.two_pow_eight_mul]
  exact c.lowBits.isLt

/-- The image holds the low bits and nothing else. -/
theorem image_eq_bytes_lowBits (c : Constant) :
    c.image order = (c.type.byteOrder order).bytes c.size.toNat c.lowBits.toNat := by
  apply ByteOrder.bytes_congr
  rw [toNat_lowBits, Nat.mod_mod]

theorem ofBytes_image (c : Constant) :
    (c.type.byteOrder order).ofBytes (c.image order) = c.lowBits.toNat := by
  rw [image, ByteOrder.ofBytes_bytes, toNat_lowBits]

/-- A normal constant is its type and its image. -/
theorem eq_of_image {c d : Constant} (hc : c.IsNormal) (hd : d.IsNormal) (ht : c.type = d.type)
    (himage : c.image order = d.image order) : c = d := by
  apply eq_of_lowBits hc hd ht
  rw [← ofBytes_image order c, ← ofBytes_image order d, ht, himage]

/-- A constant whose word was made by widening is normal, with the widened bits as its low bits. -/
theorem isNormal_of_bits_eq_widen {c : Constant} {n : Nat} {x : BitVec n}
    (hn : n = 8 * c.size.toNat) (hb : c.bits = c.type.widen x) :
    c.IsNormal ∧ c.lowBits.toNat = x.toNat := by
  subst hn
  have hle : 8 * c.size.toNat ≤ 64 := Nat.mul_le_mul_left 8 c.size_le_eight
  have hlow : c.lowBits = x := by
    rw [lowBits, hb]
    exact BasicType.setWidth_widen c.type hle x
  exact ⟨by rw [IsNormal, hlow, hb], by rw [hlow]⟩

end Constant

namespace Scratch

variable (order : ByteOrder)

theorem toNat_mask {n : Nat} (hn : n ≤ 8) : (mask n).toNat = 2 ^ (8 * n) - 1 := by
  have hall : ∀ m < 9, (mask m).toNat = 2 ^ (8 * m) - 1 := by decide
  exact hall n (by omega)

/-- Masking keeps the low `n` bytes of a word. -/
theorem toNat_and_mask (b : UInt64) {n : Nat} (hn : n ≤ 8) :
    (b &&& mask n).toNat = b.toNat % 256 ^ n := by
  rw [UInt64.toNat_and, toNat_mask hn, Nat.and_two_pow_sub_one_eq_mod,
    ByteOrder.two_pow_eight_mul]

theorem encode_eq_write_image (c : Constant) :
    encode order c = zeroed.write (c.image order) := by
  cases c with
  | integer t b =>
    have hbytes : ByteOrder.leastFirst.bytes t.size.toNat (b &&& mask t.size.toNat).toNat =
        ByteOrder.leastFirst.bytes t.size.toNat b.toNat := by
      apply ByteOrder.bytes_congr
      rw [toNat_and_mask b t.size_le_eight, Nat.mod_mod]
    show zeroed.write _ = zeroed.write ((t.toBasic.byteOrder order).bytes t.size.toNat b.toNat)
    rw [t.byteOrder_toBasic, hbytes]
  | float p b =>
    show zeroed.write _ = zeroed.write ((p.toBasic.byteOrder order).bytes p.size.toNat b.toNat)
    rw [p.byteOrder_toBasic]

theorem front_write (s : Scratch) (bs : List UInt8) : (s.write bs).front bs.length = bs :=
  List.take_left

theorem decode_of_not_mem_types (s : Scratch) {t : BasicType} (ht : t ∉ Constant.types) :
    s.decode order t = .error (.unsupportedTarget t) := by
  cases t <;> first | rfl | exact absurd (by decide) ht

theorem decode_integer (s : Scratch) (t : IntegerType) :
    s.decode order t.toBasic = .ok (.integer t (t.toBasic.widen (BitVec.ofNat (8 * t.size.toNat)
      ((t.toBasic.byteOrder order).ofBytes (s.front t.size.toNat))))) := by
  have hle : 8 * t.size.toNat ≤ 64 := Nat.mul_le_mul_left 8 t.size_le_eight
  have hdecode : s.decode order t.toBasic = .ok (.integer t
      (t.extend (UInt64.ofNat (ByteOrder.leastFirst.ofBytes (s.front t.size.toNat))))) := by
    cases t <;> rfl
  rw [hdecode, t.byteOrder_toBasic, t.extend_eq_widen]
  rw [UInt64.toBitVec_ofNat', BitVec.setWidth_ofNat_of_le hle]

theorem decode_float (s : Scratch) (p : FloatPrecision) :
    s.decode order p.toBasic = .ok (.float p (p.toBasic.widen (BitVec.ofNat (8 * p.size.toNat)
      ((p.toBasic.byteOrder order).ofBytes (s.front p.size.toNat))))) := by
  cases p with
  | f32 => rfl
  | f64 =>
    have hwiden (x : BitVec 64) : BasicType.float64.widen x = ⟨x⟩ :=
      congrArg UInt64.ofBitVec (BitVec.setWidth_eq x)
    exact congrArg (fun w => Except.ok (Constant.float .f64 w)) (hwiden _).symm

/-- Decoding under a type of constants widens the number that the front of the buffer holds. -/
theorem exists_decode (s : Scratch) {t : BasicType} (ht : t ∈ Constant.types) :
    ∃ d, s.decode order t = .ok d ∧ d.type = t ∧
      d.bits = t.widen (BitVec.ofNat (8 * d.size.toNat)
        ((t.byteOrder order).ofBytes (s.front d.size.toNat))) := by
  rcases Constant.eq_toBasic_of_mem_types ht with ⟨i, rfl⟩ | ⟨p, rfl⟩
  · exact ⟨_, decode_integer order s i, rfl, rfl⟩
  · exact ⟨_, decode_float order s p, rfl, rfl⟩

/-- Decoding under a type of constants gives the normal constant of the type that has the front of
the buffer as its image. -/
theorem exists_decode_image (s : Scratch) {t : BasicType} {n : UInt32} (ht : t ∈ Constant.types)
    (hn : t.naturalSize = some n) (hfront : n.toNat ≤ s.bytes.length) :
    ∃ d, s.decode order t = .ok d ∧ d.type = t ∧ d.IsNormal ∧
      d.image order = s.front n.toNat := by
  obtain ⟨d, hd, rfl, hbits⟩ := exists_decode order s ht
  have hsize : d.size = n := by
    rw [Constant.naturalSize_type] at hn
    exact Option.some.inj hn
  subst hsize
  obtain ⟨hnormal, hlow⟩ := Constant.isNormal_of_bits_eq_widen rfl hbits
  have hlength : (s.front d.size.toNat).length = d.size.toNat := List.length_take_of_le hfront
  -- the number read is below `256 ^ size`, so no bit of it is lost
  have hlt := ByteOrder.ofBytes_lt (d.type.byteOrder order) (s.front d.size.toNat)
  rw [hlength, ← ByteOrder.two_pow_eight_mul] at hlt
  rw [BitVec.toNat_ofNat, Nat.mod_eq_of_lt hlt] at hlow
  refine ⟨d, hd, rfl, hnormal, ?_⟩
  have himage := ByteOrder.bytes_ofBytes (d.type.byteOrder order) (s.front d.size.toNat)
  rwa [hlength, ← hlow, ← Constant.image_eq_bytes_lowBits] at himage

@[simp] theorem length_bytes_zeroed : zeroed.bytes.length = capacity :=
  List.length_replicate

/-- The buffer after encoding: the image of the constant, and zeros behind it. -/
theorem bytes_encode (c : Constant) :
    (encode order c).bytes =
      c.image order ++ List.replicate (capacity - c.size.toNat) 0 := by
  rw [encode_eq_write_image, write, zeroed, List.drop_replicate, Constant.length_image]

theorem size_le_capacity (c : Constant) : c.size.toNat ≤ capacity :=
  Nat.le_trans c.size_le_eight (by decide)

theorem length_bytes_encode (c : Constant) : (encode order c).bytes.length = capacity := by
  rw [bytes_encode, List.length_append, Constant.length_image, List.length_replicate]
  exact Nat.add_sub_cancel' (size_le_capacity c)

theorem front_encode (c : Constant) : (encode order c).front c.size.toNat = c.image order := by
  have h := front_write zeroed (c.image order)
  rwa [Constant.length_image, ← encode_eq_write_image] at h

end Scratch

namespace Constant

variable (order : ByteOrder)

/-- A reinterpretation as a type of constants of the same size succeeds and leaves the image as it
is. -/
theorem exists_reinterpret (c : Constant) {t : BasicType} (ht : t ∈ types)
    (hsize : t.naturalSize = some c.size) :
    ∃ d, c.reinterpret order t = .ok d ∧ d.type = t ∧ d.IsNormal ∧
      d.image order = c.image order := by
  have hfront : c.size.toNat ≤ (Scratch.encode order c).bytes.length := by
    rw [Scratch.length_bytes_encode]
    exact Scratch.size_le_capacity c
  obtain ⟨d, hd, htype, hnormal, himage⟩ :=
    Scratch.exists_decode_image order (Scratch.encode order c) ht hsize hfront
  -- what the decoder reads is exactly what the encoder wrote
  rw [Scratch.front_encode] at himage
  refine ⟨d, ?_, htype, hnormal, himage⟩
  simp only [reinterpret, hsize, ne_eq, not_true_eq_false, ↓reduceIte]
  exact hd

theorem reinterpret_of_unsized (c : Constant) {t : BasicType} (ht : t.naturalSize = none) :
    c.reinterpret order t = .error (.unsupportedTarget t) := by
  simp only [reinterpret, ht]

theorem reinterpret_of_size_ne (c : Constant) {t : BasicType} {n : UInt32}
    (ht : t.naturalSize = some n) (hn : c.size ≠ n) :
    c.reinterpret order t = .error (.sizeMismatch c.type t c.size n) := by
  simp only [reinterpret, ht, ne_eq, hn, not_false_eq_true, ↓reduceIte]

theorem reinterpret_of_not_mem_types (c : Constant) {t : BasicType}
    (hsize : t.naturalSize = some c.size) (ht : t ∉ types) :
    c.reinterpret order t = .error (.unsupportedTarget t) := by
  simp only [reinterpret, hsize, ne_eq, not_true_eq_false, ↓reduceIte]
  exact Scratch.decode_of_not_mem_types order _ ht

/-- What a reinterpretation can do: it gives the normal constant of the asked type with the same
image, or it fails, for one of three reasons that exclude each other. -/
theorem reinterpret_cases (c : Constant) (t : BasicType) :
    (t ∈ types ∧ t.naturalSize = some c.size ∧
      ∃ d, c.reinterpret order t = .ok d ∧ d.type = t ∧ d.IsNormal ∧
        d.image order = c.image order) ∨
    (t.naturalSize = none ∧ c.reinterpret order t = .error (.unsupportedTarget t)) ∨
    (∃ n, t.naturalSize = some n ∧ c.size ≠ n ∧
      c.reinterpret order t = .error (.sizeMismatch c.type t c.size n)) ∨
    (t ∉ types ∧ t.naturalSize = some c.size ∧
      c.reinterpret order t = .error (.unsupportedTarget t)) := by
  cases hn : t.naturalSize with
  | none => exact Or.inr (Or.inl ⟨rfl, reinterpret_of_unsized order c hn⟩)
  | some n =>
    by_cases hsize : c.size = n
    · subst hsize
      by_cases ht : t ∈ types
      · exact Or.inl ⟨ht, rfl, exists_reinterpret order c ht hn⟩
      · exact Or.inr (Or.inr (Or.inr ⟨ht, rfl, reinterpret_of_not_mem_types order c hn ht⟩))
    · exact Or.inr (Or.inr (Or.inl ⟨n, rfl, hsize, reinterpret_of_size_ne order c hn hsize⟩))

theorem reinterpret_eq_ok_iff (c d : Constant) (t : BasicType) :
    c.reinterpret order t = .ok d ↔
      t ∈ types ∧ t.naturalSize = some c.size ∧ d.type = t ∧ d.IsNormal ∧
        d.image order = c.image order := by
  constructor
  · intro h
    rcases reinterpret_cases order c t with
      ⟨ht, hsize, d', hd', htype, hnormal, himage⟩ | ⟨-, hr⟩ | ⟨n, -, -, hr⟩ | ⟨-, -, hr⟩
    · rw [hd'] at h
      cases h
      exact ⟨ht, hsize, htype, hnormal, himage⟩
    all_goals
      rw [hr] at h
      cases h
  · rintro ⟨ht, hsize, htype, hnormal, himage⟩
    obtain ⟨d', hd', htype', hnormal', himage'⟩ := exists_reinterpret order c ht hsize
    have heq : d' = d :=
      eq_of_image order hnormal' hnormal (htype'.trans htype.symm) (himage'.trans himage.symm)
    rw [hd', heq]

variable {order} {c d : Constant} {t : BasicType}

theorem type_of_reinterpret (h : c.reinterpret order t = .ok d) : d.type = t :=
  ((reinterpret_eq_ok_iff order c d t).1 h).2.2.1

theorem isNormal_of_reinterpret (h : c.reinterpret order t = .ok d) : d.IsNormal :=
  ((reinterpret_eq_ok_iff order c d t).1 h).2.2.2.1

theorem image_of_reinterpret (h : c.reinterpret order t = .ok d) :
    d.image order = c.image order :=
  ((reinterpret_eq_ok_iff order c d t).1 h).2.2.2.2

/-- The low bits of the result are the number that the image is under the new type. -/
theorem toNat_lowBits_of_reinterpret (h : c.reinterpret order t = .ok d) :
    d.lowBits.toNat = (t.byteOrder order).ofBytes (c.image order) := by
  rw [← ofBytes_image order d, type_of_reinterpret h, image_of_reinterpret h]

end Constant

end TargetAbi
