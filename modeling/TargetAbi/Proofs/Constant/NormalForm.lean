import TargetAbi.Constant.Reinterpret

/-!
# The normal form of constants

Every constant is kept as a word of 64 bits, of which only the low `8 * size` bits belong to its
type. The rest of the word follows from them: it repeats the sign bit for a signed type and is zero
for an unsigned one and for a float (`IsNormal`). A normal constant is therefore determined by its
type and its low bits (`eq_of_lowBits`). Its size is the natural size of its type
(`naturalSize_type`), normal or not.
-/

set_option autoImplicit false

namespace TargetAbi

namespace BasicType

/-- Signed integer types. -/
def isSigned : BasicType → Bool
  | int8 | int16 | int32 | int64 | int128 => true
  | _ => false

/-- Types of float constants. -/
def isFloat : BasicType → Bool
  | float32 | float64 => true
  | _ => false

/-- The word that keeps the bits `x` of a value of the type `t`: extended by sign for a signed type
and by zeros for all others. -/
def widen (t : BasicType) {n : Nat} (x : BitVec n) : UInt64 :=
  ⟨if t.isSigned then x.signExtend 64 else x.setWidth 64⟩

/-- The bits can be read off the word again. -/
theorem setWidth_widen (t : BasicType) {n : Nat} (hn : n ≤ 64) (x : BitVec n) :
    (t.widen x).toBitVec.setWidth n = x := by
  unfold widen
  cases t.isSigned with
  | true =>
    show (x.signExtend 64).setWidth n = x
    -- the copies of the sign bit lie above the bits that are read back
    apply BitVec.eq_of_getLsbD_eq
    intro i hi
    have hi64 : i < 64 := by omega
    rw [BitVec.getLsbD_setWidth, BitVec.getLsbD_signExtend]
    simp [hi, hi64]
  | false =>
    show (x.setWidth 64).setWidth n = x
    rw [BitVec.setWidth_setWidth_of_le x hn]
    exact BitVec.setWidth_eq x

theorem toNat_widen_of_unsigned {t : BasicType} (ht : t.isSigned = false) {n : Nat} (hn : n ≤ 64)
    (x : BitVec n) : (t.widen x).toNat = x.toNat := by
  have hlt : x.toNat < 2 ^ 64 := Nat.lt_of_lt_of_le x.isLt (Nat.pow_le_pow_right (by decide) hn)
  have hword : (t.widen x).toBitVec = x.setWidth 64 := by simp [widen, ht]
  rw [← UInt64.toNat_toBitVec, hword, BitVec.toNat_setWidth, Nat.mod_eq_of_lt hlt]

/-- A full word has no bits to extend. -/
theorem widen_toBitVec (t : BasicType) (w : UInt64) : t.widen w.toBitVec = w := by
  apply UInt64.toBitVec_inj.mp
  unfold widen
  cases t.isSigned with
  | true => exact BitVec.signExtend_eq _
  | false => exact BitVec.setWidth_eq _

/-- Equal bits of equal width are widened to the same word. -/
theorem widen_congr (t : BasicType) {m n : Nat} {x : BitVec m} {y : BitVec n} (hmn : m = n)
    (hxy : x.toNat = y.toNat) : t.widen x = t.widen y := by
  subst hmn
  rw [BitVec.eq_of_toNat_eq hxy]

end BasicType

namespace IntegerType

theorem ofBasic?_toBasic (t : IntegerType) : ofBasic? t.toBasic = some t := by
  cases t <;> rfl

theorem size_le_eight (t : IntegerType) : t.size.toNat ≤ 8 := by
  cases t <;> decide

/-- `extend` keeps the bits of the type's width and widens them. -/
theorem extend_eq_widen (t : IntegerType) (raw : UInt64) :
    t.extend raw = t.toBasic.widen (raw.toBitVec.setWidth (8 * t.size.toNat)) := by
  have hword (s : BasicType) : s.widen (raw.toBitVec.setWidth 64) = raw := by
    rw [BitVec.setWidth_eq, BasicType.widen_toBitVec]
  cases t with
  | int32 => rfl
  | uns32 =>
    -- masking the low half of the word is taking the remainder by its size
    apply UInt64.toBitVec_inj.mp
    show raw.toBitVec &&& 0xFFFFFFFF#64 = (raw.toBitVec.setWidth 32).setWidth 64
    apply BitVec.eq_of_toNat_eq
    have hand := Nat.and_two_pow_sub_one_eq_mod raw.toBitVec.toNat 32
    have hlt : raw.toBitVec.toNat % 2 ^ 32 < 2 ^ 64 := by omega
    rw [BitVec.toNat_and, BitVec.toNat_setWidth, BitVec.toNat_setWidth, Nat.mod_eq_of_lt hlt]
    exact hand
  | int64 => exact (hword .int64).symm
  | uns64 => exact (hword .uns64).symm

end IntegerType

namespace FloatPrecision

theorem ofBasic?_toBasic (p : FloatPrecision) : IntegerType.ofBasic? p.toBasic = none := by
  cases p <;> rfl

theorem toBasic_inj {p q : FloatPrecision} (h : p.toBasic = q.toBasic) : p = q := by
  revert h
  cases p <;> cases q <;> decide

theorem size_le_eight (p : FloatPrecision) : p.size.toNat ≤ 8 := by
  cases p <;> decide

end FloatPrecision

namespace Constant

/-- The types of constants. -/
def types : List BasicType :=
  [.int32, .uns32, .int64, .uns64, .float32, .float64]

/-- The bits of a constant that belong to its type. -/
def lowBits (c : Constant) : BitVec (8 * c.size.toNat) :=
  c.bits.toBitVec.setWidth (8 * c.size.toNat)

/-- The word of a constant holds its low bits, widened. -/
def IsNormal (c : Constant) : Prop :=
  c.bits = c.type.widen c.lowBits

/-- The size of a constant is the natural size of its type. -/
theorem naturalSize_type (c : Constant) : c.type.naturalSize = some c.size := by
  cases c with
  | integer t b => cases t <;> rfl
  | float p b => cases p <;> rfl

theorem size_congr {c d : Constant} (h : c.type = d.type) : c.size = d.size := by
  have hd := naturalSize_type d
  rw [← h, naturalSize_type] at hd
  exact Option.some.inj hd

theorem size_le_eight (c : Constant) : c.size.toNat ≤ 8 := by
  cases c with
  | integer t b => exact t.size_le_eight
  | float p b => exact p.size_le_eight

/-- A constant is four or eight bytes wide. -/
theorem size_eq (c : Constant) : c.size = 4 ∨ c.size = 8 := by
  cases c with
  | integer t b =>
    show t.size = 4 ∨ t.size = 8
    cases t <;> decide
  | float p b =>
    show p.size = 4 ∨ p.size = 8
    cases p <;> decide

theorem size_pos (c : Constant) : 0 < c.size.toNat := by
  rcases c.size_eq with hsize | hsize
  · rw [hsize]
    decide
  · rw [hsize]
    decide

theorem type_mem_types (c : Constant) : c.type ∈ types := by
  cases c with
  | integer t b => cases t <;> simp [types, type, IntegerType.toBasic]
  | float p b => cases p <;> simp [types, type, FloatPrecision.toBasic]

theorem eq_toBasic_of_mem_types {t : BasicType} (ht : t ∈ types) :
    (∃ i : IntegerType, t = i.toBasic) ∨ ∃ p : FloatPrecision, t = p.toBasic := by
  simp only [types, List.mem_cons, List.not_mem_nil, or_false] at ht
  rcases ht with rfl | rfl | rfl | rfl | rfl | rfl
  · exact Or.inl ⟨.int32, rfl⟩
  · exact Or.inl ⟨.uns32, rfl⟩
  · exact Or.inl ⟨.int64, rfl⟩
  · exact Or.inl ⟨.uns64, rfl⟩
  · exact Or.inr ⟨.f32, rfl⟩
  · exact Or.inr ⟨.f64, rfl⟩

/-- A constant is its type and its word. -/
theorem eq_of_type_of_bits {c d : Constant} (ht : c.type = d.type) (hb : c.bits = d.bits) :
    c = d := by
  -- `ofBasic?` tells the integer types from each other and from the float types
  have hof := congrArg IntegerType.ofBasic? ht
  cases c with
  | integer s b =>
    cases d with
    | integer t b' =>
      have hst : some s = some t := by
        rwa [← IntegerType.ofBasic?_toBasic s, ← IntegerType.ofBasic?_toBasic t]
      rw [Option.some.inj hst, show b = b' from hb]
    | float q b' =>
      have hsq : some s = none := by
        rwa [← IntegerType.ofBasic?_toBasic s, ← FloatPrecision.ofBasic?_toBasic q]
      exact absurd hsq (by simp)
  | float p b =>
    cases d with
    | integer t b' =>
      have hpt : none = some t := by
        rwa [← FloatPrecision.ofBasic?_toBasic p, ← IntegerType.ofBasic?_toBasic t]
      exact absurd hpt (by simp)
    | float q b' =>
      rw [FloatPrecision.toBasic_inj (show p.toBasic = q.toBasic from ht), show b = b' from hb]

/-- A normal constant is its type and its low bits. -/
theorem eq_of_lowBits {c d : Constant} (hc : c.IsNormal) (hd : d.IsNormal) (ht : c.type = d.type)
    (hb : c.lowBits.toNat = d.lowBits.toNat) : c = d := by
  have hwidth : 8 * c.size.toNat = 8 * d.size.toNat := by rw [size_congr ht]
  apply eq_of_type_of_bits ht
  rw [hc, hd, ht]
  exact BasicType.widen_congr d.type hwidth hb

end Constant

end TargetAbi
