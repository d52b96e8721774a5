import TargetAbi.Proofs.Constant.Memory

/-!
# The bits of a reinterpreted constant

On a machine that stores the least significant byte first, a reinterpretation keeps the low bits of
the constant and widens them for the new type (`reinterpret_leastFirst`). On a machine that stores
the most significant byte first, integers still have their least significant byte first and floats
do not, so a reinterpretation between the two kinds reverses the bytes. The two machines agree
exactly when that does not happen or does not matter (`reinterpret_leastFirst_eq_mostFirst_iff`).
-/

set_option autoImplicit false

namespace TargetAbi

theorem BasicType.byteOrder_leastFirst (t : BasicType) :
    t.byteOrder .leastFirst = .leastFirst := by
  unfold BasicType.byteOrder
  cases t.isFloat <;> rfl

namespace Constant

theorem bits_of_reinterpret_leastFirst {c d : Constant} {t : BasicType}
    (h : c.reinterpret .leastFirst t = .ok d) : d.bits = t.widen c.lowBits := by
  obtain ⟨-, hsize, htype, hnormal, -⟩ := (reinterpret_eq_ok_iff .leastFirst c d t).1 h
  have hwidth : 8 * d.size.toNat = 8 * c.size.toNat := by
    rw [← htype, naturalSize_type] at hsize
    rw [Option.some.inj hsize]
  have hlow : d.lowBits.toNat = c.lowBits.toNat := by
    rw [toNat_lowBits_of_reinterpret h, ← ofBytes_image .leastFirst c]
    rw [BasicType.byteOrder_leastFirst, BasicType.byteOrder_leastFirst]
  rw [hnormal, htype]
  exact BasicType.widen_congr t hwidth hlow

/-- Reinterpretation on a machine that stores the least significant byte first. It succeeds exactly
for the types of constants of the same size; the result has the asked type and the low bits of the
source, extended by sign or by zeros; and a type without a natural size is refused before one of
another size, and this before one that no constant has. The constant need not be normal. -/
theorem reinterpret_leastFirst (c : Constant) (t : BasicType) :
    ((∃ d, c.reinterpret .leastFirst t = .ok d) ↔ t ∈ types ∧ t.naturalSize = some c.size) ∧
      (∀ d, c.reinterpret .leastFirst t = .ok d → d.type = t ∧ d.bits = t.widen c.lowBits) ∧
      ∀ e, c.reinterpret .leastFirst t = .error e →
        (t.naturalSize = none → e = .unsupportedTarget t) ∧
        (∀ n, t.naturalSize = some n → n ≠ c.size → e = .sizeMismatch c.type t c.size n) ∧
        (t.naturalSize = some c.size → e = .unsupportedTarget t) := by
  refine ⟨⟨?_, ?_⟩, ?_, ?_⟩
  · rintro ⟨d, h⟩
    obtain ⟨ht, hsize, -⟩ := (reinterpret_eq_ok_iff .leastFirst c d t).1 h
    exact ⟨ht, hsize⟩
  · rintro ⟨ht, hsize⟩
    obtain ⟨d, h, -⟩ := exists_reinterpret .leastFirst c ht hsize
    exact ⟨d, h⟩
  · intro d h
    exact ⟨type_of_reinterpret h, bits_of_reinterpret_leastFirst h⟩
  · intro e h
    refine ⟨fun hn => ?_, fun n hn hne => ?_, fun hn => ?_⟩
    · rw [reinterpret_of_unsized .leastFirst c hn] at h
      cases h
      rfl
    · rw [reinterpret_of_size_ne .leastFirst c hn hne.symm] at h
      cases h
      rfl
    · have ht : t ∉ types := by
        intro ht
        obtain ⟨d, hd, -⟩ := exists_reinterpret .leastFirst c ht hn
        rw [hd] at h
        cases h
      rw [reinterpret_of_not_mem_types .leastFirst c hn ht] at h
      cases h
      rfl

/-- A signalling NaN keeps its payload. -/
example : (Constant.uns32 0x7F800001).reinterpret .leastFirst .float32 =
    .ok (.float32 0x7F800001) := rfl

/-- The machines agree on two results of a reinterpretation when they agree on their low bits. -/
theorem eq_iff_of_reinterpret {order order' : ByteOrder} {c d d' : Constant} {t : BasicType}
    (h : c.reinterpret order t = .ok d) (h' : c.reinterpret order' t = .ok d') :
    d = d' ↔ (t.byteOrder order).ofBytes (c.image order) =
      (t.byteOrder order').ofBytes (c.image order') := by
  have htype : d.type = d'.type := (type_of_reinterpret h).trans (type_of_reinterpret h').symm
  rw [← toNat_lowBits_of_reinterpret h, ← toNat_lowBits_of_reinterpret h']
  constructor
  · rintro rfl
    rfl
  · exact eq_of_lowBits (isNormal_of_reinterpret h) (isNormal_of_reinterpret h') htype

/-- The other machine reads the low bits within a kind; between the kinds it reads the reversed
bytes. -/
theorem ofBytes_image_mostFirst_eq_iff (c : Constant) (t : BasicType) :
    (t.byteOrder .mostFirst).ofBytes (c.image .mostFirst) = c.bits.toNat % 256 ^ c.size.toNat ↔
      (c.type.isFloat ≠ t.isFloat → ByteOrder.leastFirst.bytes c.size.toNat c.bits.toNat =
        ByteOrder.mostFirst.bytes c.size.toNat c.bits.toNat) := by
  rw [image, ByteOrder.ofBytes_bytes_eq_iff, BasicType.byteOrder, BasicType.byteOrder]
  -- only the two mixed cases leave different orders on the two sides
  cases c.type.isFloat with
  | true => cases t.isFloat <;> simp [eq_comm]
  | false => cases t.isFloat <;> simp

/-- Whether and why a reinterpretation fails does not depend on the machine. -/
theorem reinterpret_eq_error_of_eq_error {order : ByteOrder} (order' : ByteOrder) {c : Constant}
    {t : BasicType} {e : ReinterpretError} (h : c.reinterpret order t = .error e) :
    c.reinterpret order' t = .error e := by
  rcases reinterpret_cases order c t with
    ⟨-, -, d, hd, -⟩ | ⟨hn, hr⟩ | ⟨n, hn, hne, hr⟩ | ⟨ht, hn, hr⟩
  · rw [hd] at h
    cases h
  · rw [← h, hr]
    exact reinterpret_of_unsized order' c hn
  · rw [← h, hr]
    exact reinterpret_of_size_ne order' c hn hne
  · rw [← h, hr]
    exact reinterpret_of_not_mem_types order' c hn ht

/-- The machines always fail together. They agree on a result exactly when it stays among the
integers or among the floats, or when the bytes of the constant read the same in both directions. -/
theorem reinterpret_leastFirst_eq_mostFirst_iff (c : Constant) (t : BasicType) :
    (∀ e, c.reinterpret .leastFirst t = .error e ↔ c.reinterpret .mostFirst t = .error e) ∧
      (c.reinterpret .leastFirst t = c.reinterpret .mostFirst t ↔
        (t ∈ types → t.naturalSize = some c.size → c.type.isFloat ≠ t.isFloat →
          ByteOrder.leastFirst.bytes c.size.toNat c.bits.toNat =
            ByteOrder.mostFirst.bytes c.size.toNat c.bits.toNat)) := by
  refine ⟨fun e => ⟨reinterpret_eq_error_of_eq_error _, reinterpret_eq_error_of_eq_error _⟩, ?_⟩
  by_cases hok : t ∈ types ∧ t.naturalSize = some c.size
  · obtain ⟨ht, hsize⟩ := hok
    obtain ⟨d, hd, -⟩ := exists_reinterpret .leastFirst c ht hsize
    obtain ⟨d', hd', -⟩ := exists_reinterpret .mostFirst c ht hsize
    have hleast : (t.byteOrder .leastFirst).ofBytes (c.image .leastFirst) =
        c.bits.toNat % 256 ^ c.size.toNat := by
      rw [image, BasicType.byteOrder_leastFirst, BasicType.byteOrder_leastFirst,
        ByteOrder.ofBytes_bytes]
    rw [hd, hd', Except.ok.injEq, eq_iff_of_reinterpret hd hd', hleast, eq_comm,
      ofBytes_image_mostFirst_eq_iff]
    exact ⟨fun h _ _ => h, fun h => h ht hsize⟩
  · constructor
    · intro _ ht hsize
      exact absurd ⟨ht, hsize⟩ hok
    · intro _
      cases h : c.reinterpret .leastFirst t with
      | ok d =>
        obtain ⟨ht, hsize, -⟩ := (reinterpret_eq_ok_iff .leastFirst c d t).1 h
        exact absurd ⟨ht, hsize⟩ hok
      | error e => exact (reinterpret_eq_error_of_eq_error .mostFirst h).symm

/-- The pattern of the float one, kept as an integer, is read as one on one machine and as a tiny
number on the other. -/
theorem reinterpret_one_depends_on_order :
    (Constant.int32 0x3F800000).reinterpret .leastFirst .float32 = .ok (.float32 0x3F800000) ∧
      (Constant.int32 0x3F800000).reinterpret .mostFirst .float32 = .ok (.float32 0x0000803F) :=
  ⟨rfl, rfl⟩

end Constant

end TargetAbi
