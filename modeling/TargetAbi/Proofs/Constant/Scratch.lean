import TargetAbi.Proofs.Constant.Constructible

/-!
# The scratch buffer within its bounds

The operations of `Scratch` are total: a shift by 64 or more wraps around, a number that is too wide
for its bytes loses the rest, a slice that ends after the buffer is cut short. A machine that checks
its operations stops in these cases. `Guarded.reinterpret` is the reinterpretation on such a
machine, with a fault for each case, and it never stops: it is `Constant.reinterpret` on every
constant (`Guarded.reinterpret_eq`). The mask is what the negative integers of four bytes need,
because their words have 64 significant bits (`writeNumber_bits_iff`). The decoder reads the bytes
that were written, all of them and no others (`Scratch.decode_eq_decode_iff`).
-/

set_option autoImplicit false

namespace TargetAbi

/-! ## Operations that check their bounds -/

namespace Guarded

/-- Why an operation stops. -/
inductive Fault where
  /-- A word of 64 bits is shifted by 64 bits or more. -/
  | shift (amount : Nat)
  /-- One is taken from a word that is zero. -/
  | underflow
  /-- A slice ends after the buffer. -/
  | slice (stop : Nat)
  /-- A number is to have no byte or more than eight of them. -/
  | byteCount (n : Nat)
  /-- A number does not fit in its bytes. -/
  | tooWide (value : UInt64) (n : Nat)
  /-- The constructor refuses the type for which the decoder has read a word. -/
  | refused (e : ReinterpretError)

/-- Stops unless `p` holds. -/
def require (p : Prop) [Decidable p] (fault : Fault) : Except Fault Unit :=
  if p then .ok () else .error fault

/-- The word with the low `8 * size` bits set. -/
def mask (size : Nat) : Except Fault UInt64 :=
  if 8 ≤ size then .ok 0xFFFFFFFFFFFFFFFF
  else do
    require (size * 8 < 64) (.shift (size * 8))
    let bit : UInt64 := 1 <<< UInt64.ofNat (size * 8)
    require (1 ≤ bit) .underflow
    return bit - 1

/-- The buffer with a number in its first `n` bytes, least significant byte first. -/
def writeNumber (s : Scratch) (n : Nat) (value : UInt64) : Except Fault Scratch := do
  require (n ≤ s.bytes.length) (.slice n)
  require (1 ≤ n ∧ n ≤ 8) (.byteCount n)
  require (value.toNat < 256 ^ n) (.tooWide value n)
  return s.write (ByteOrder.leastFirst.bytes n value.toNat)

/-- The number in the first `n` bytes, least significant byte first. -/
def readNumber (s : Scratch) (n : Nat) : Except Fault Nat := do
  require (n ≤ s.bytes.length) (.slice n)
  require (1 ≤ n ∧ n ≤ 8) (.byteCount n)
  return ByteOrder.leastFirst.ofBytes (s.front n)

/-- The buffer with the pattern of a float in its first `n` bytes. -/
def writePattern (order : ByteOrder) (s : Scratch) (n : Nat) (pattern : Nat) :
    Except Fault Scratch := do
  require (n ≤ s.bytes.length) (.slice n)
  return s.write (order.bytes n pattern)

/-- The pattern of the float in the first `n` bytes. -/
def readPattern (order : ByteOrder) (s : Scratch) (n : Nat) : Except Fault Nat := do
  require (n ≤ s.bytes.length) (.slice n)
  return order.ofBytes (s.front n)

/-- A zeroed buffer with the bytes of a constant at its front. -/
def encode (order : ByteOrder) : Constant → Except Fault Scratch
  | .integer t b => do
    let m ← mask t.size.toNat
    writeNumber .zeroed t.size.toNat (b &&& m)
  | .float p b => writePattern order .zeroed p.size.toNat b.toNat

/-- The constant of a type that the front of a buffer holds. The bytes of an integer are counted by
the natural size of the type, and a constructor that refuses the type is a fault. -/
def decode (order : ByteOrder) (s : Scratch) (type : BasicType) :
    Except Fault (Except ReinterpretError Constant) :=
  match type with
  | .int32 | .uns32 | .int64 | .uns64 => do
    let raw ← readNumber s (if type.naturalSize = some 4 then 4 else 8)
    match Constant.integer? type (UInt64.ofNat raw) with
    | .ok c => return .ok c
    | .error e => .error (.refused e)
  | .float32 => do
    let pattern ← readPattern order s 4
    return .ok (.float32 (UInt32.ofNat pattern))
  | .float64 => do
    let pattern ← readPattern order s 8
    return .ok (.float64 (UInt64.ofNat pattern))
  | _ => return .error (.unsupportedTarget type)

/-- The constant of the type `target` with the bits of `c`. -/
def reinterpret (order : ByteOrder) (c : Constant) (target : BasicType) :
    Except Fault (Except ReinterpretError Constant) :=
  match target.naturalSize with
  | none => return .error (.unsupportedTarget target)
  | some size =>
    if c.size ≠ size then return .error (.sizeMismatch c.type target c.size size)
    else do
      let s ← encode order c
      decode order s target

/-! ## No operation stops -/

variable {order : ByteOrder} {s : Scratch} {n : Nat}

theorem require_of {p : Prop} [Decidable p] (hp : p) (fault : Fault) :
    require p fault = .ok () :=
  if_pos hp

theorem mask_eq (size : Nat) : mask size = .ok (Scratch.mask size) := by
  by_cases hsize : 8 ≤ size
  · rw [mask, Scratch.mask, if_pos hsize, if_pos hsize]
  · have hbit : ∀ k < 8, (1 : UInt64) ≤ 1 <<< UInt64.ofNat (k * 8) := by decide
    rw [mask, Scratch.mask, if_neg hsize, if_neg hsize, require_of (by omega)]
    show (do require _ _; _) = _
    rw [require_of (hbit size (by omega))]
    rfl

theorem writeNumber_eq {value : UInt64} (hslice : n ≤ s.bytes.length) (hcount : 1 ≤ n ∧ n ≤ 8)
    (hfits : value.toNat < 256 ^ n) :
    writeNumber s n value = .ok (s.write (ByteOrder.leastFirst.bytes n value.toNat)) := by
  rw [writeNumber, require_of hslice, require_of hcount, require_of hfits]
  rfl

theorem writeNumber_of_tooWide {value : UInt64} (hslice : n ≤ s.bytes.length)
    (hcount : 1 ≤ n ∧ n ≤ 8) (hwide : ¬ value.toNat < 256 ^ n) :
    writeNumber s n value = .error (.tooWide value n) := by
  rw [writeNumber, require_of hslice, require_of hcount, require, if_neg hwide]
  rfl

theorem readNumber_eq (hslice : n ≤ s.bytes.length) (hcount : 1 ≤ n ∧ n ≤ 8) :
    readNumber s n = .ok (ByteOrder.leastFirst.ofBytes (s.front n)) := by
  rw [readNumber, require_of hslice, require_of hcount]
  rfl

theorem writePattern_eq (hslice : n ≤ s.bytes.length) (pattern : Nat) :
    writePattern order s n pattern = .ok (s.write (order.bytes n pattern)) := by
  rw [writePattern, require_of hslice]
  rfl

theorem readPattern_eq (hslice : n ≤ s.bytes.length) :
    readPattern order s n = .ok (order.ofBytes (s.front n)) := by
  rw [readPattern, require_of hslice]
  rfl

theorem encode_eq (order : ByteOrder) (c : Constant) :
    encode order c = .ok (Scratch.encode order c) := by
  cases c with
  | integer t b =>
    have hslice : t.size.toNat ≤ Scratch.zeroed.bytes.length := by
      rw [Scratch.length_bytes_zeroed]
      exact Scratch.size_le_capacity (.integer t b)
    have hcount : 1 ≤ t.size.toNat ∧ t.size.toNat ≤ 8 :=
      ⟨Constant.size_pos (.integer t b), t.size_le_eight⟩
    have hfits : (b &&& Scratch.mask t.size.toNat).toNat < 256 ^ t.size.toNat := by
      rw [Scratch.toNat_and_mask b t.size_le_eight]
      exact Nat.mod_lt _ (Nat.pow_pos (by decide))
    rw [encode, mask_eq]
    exact writeNumber_eq hslice hcount hfits
  | float p b =>
    have hslice : p.size.toNat ≤ Scratch.zeroed.bytes.length := by
      rw [Scratch.length_bytes_zeroed]
      exact Scratch.size_le_capacity (.float p b)
    exact writePattern_eq hslice b.toNat

/-- Decoding stops for no type if the buffer has eight bytes. -/
theorem decode_eq (order : ByteOrder) (hs : 8 ≤ s.bytes.length) (t : BasicType) :
    decode order s t = .ok (s.decode order t) := by
  have hfour : 4 ≤ s.bytes.length := Nat.le_trans (by decide) hs
  have hread4 := readNumber_eq hfour (by decide)
  have hread8 := readNumber_eq hs (by decide)
  cases t
  case int32 | uns32 =>
    show (readNumber s 4 >>= _) = _
    rw [hread4]
    rfl
  case int64 | uns64 =>
    show (readNumber s 8 >>= _) = _
    rw [hread8]
    rfl
  case float32 =>
    rw [decode, readPattern_eq hfour]
    rfl
  case float64 =>
    rw [decode, readPattern_eq hs]
    rfl
  all_goals rfl

/-- The checking machine gives the same answer and never stops. -/
theorem reinterpret_eq (order : ByteOrder) (c : Constant) (t : BasicType) :
    reinterpret order c t = .ok (c.reinterpret order t) := by
  unfold reinterpret Constant.reinterpret
  cases t.naturalSize with
  | none => rfl
  | some size =>
    dsimp only
    split
    · rfl
    · have hlength : 8 ≤ (Scratch.encode order c).bytes.length := by
        rw [Scratch.length_bytes_encode]
        decide
      rw [encode_eq]
      exact decode_eq order hlength t

end Guarded

/-! ## What the decoder reads -/

/-- Buffers that hold enough bytes are decoded alike under a type of constants exactly when the
bytes of its size at their fronts are the same. -/
theorem Scratch.decode_eq_decode_iff (order : ByteOrder) {s s' : Scratch} {t : BasicType}
    {n : UInt32} (ht : t ∈ Constant.types) (hn : t.naturalSize = some n)
    (hs : n.toNat ≤ s.bytes.length) (hs' : n.toNat ≤ s'.bytes.length) :
    s.decode order t = s'.decode order t ↔ s.front n.toNat = s'.front n.toNat := by
  obtain ⟨d, hd, htype, hnormal, himage⟩ := exists_decode_image order s ht hn hs
  obtain ⟨d', hd', htype', hnormal', himage'⟩ := exists_decode_image order s' ht hn hs'
  rw [hd, hd', Except.ok.injEq, ← himage, ← himage']
  constructor
  · rintro rfl
    rfl
  · exact Constant.eq_of_image order hnormal hnormal' (htype.trans htype'.symm)

/-! ## What the mask is for -/

namespace Constant

variable {c : Constant}

theorem bits_lt_of_size_eq_eight (hsize : c.size = 8) : c.bits.toNat < 256 ^ c.size.toNat := by
  rw [hsize]
  exact c.bits.toNat_lt

/-- A normal constant is a signed integer of four bytes, or its word fits in the bytes of its
type. -/
theorem eq_int32_or_bits_lt (hc : c.IsNormal) :
    (∃ n, c = .int32 n) ∨ c.bits.toNat < 256 ^ c.size.toNat := by
  cases c with
  | integer t b =>
    cases t with
    | int32 =>
      have hbits : b = b.toUInt32.toInt32.toInt64.toUInt64 := hc
      exact Or.inl ⟨b.toUInt32.toInt32, congrArg (integer .int32) hbits⟩
    | uns32 => exact Or.inr (bits_lt_of_unsigned hc rfl)
    | int64 | uns64 => exact Or.inr (bits_lt_of_size_eq_eight rfl)
  | float p b =>
    cases p with
    | f32 => exact Or.inr (bits_lt_of_unsigned hc rfl)
    | f64 => exact Or.inr (bits_lt_of_size_eq_eight rfl)

/-- The word of a signed integer of four bytes fits in them unless the integer is negative. -/
theorem bits_int32_lt_iff (n : Int32) :
    (Constant.int32 n).bits.toNat < 256 ^ (Constant.int32 n).size.toNat ↔ 0 ≤ n := by
  have hword : (Constant.int32 n).bits.toNat = (n.toBitVec.signExtend 64).toNat := rfl
  have hlow : (n.toBitVec.setWidth 64).toNat = n.toBitVec.toNat :=
    BitVec.toNat_setWidth_of_le (by decide)
  have hlt : n.toBitVec.toNat < 2 ^ 32 := n.toBitVec.isLt
  have hsign : n.toBitVec.msb = decide (n.toInt < 0) := BitVec.msb_eq_toInt
  show (Constant.int32 n).bits.toNat < 2 ^ 32 ↔ 0 ≤ n
  rw [hword, BitVec.toNat_signExtend, hlow, hsign, Int32.le_iff_toInt_le]
  -- the copies of the sign bit are worth `2 ^ 64 - 2 ^ 32`
  have hzero : (0 : Int32).toInt = 0 := rfl
  by_cases hn : n.toInt < 0
  · rw [decide_eq_true hn, if_pos rfl]
    omega
  · rw [decide_eq_false hn, if_neg Bool.false_ne_true]
    omega

/-- Without the mask the write of an integer stops exactly for the negative ones of four bytes. -/
theorem writeNumber_bits_iff (hc : c.IsNormal) :
    (∃ fault, Guarded.writeNumber .zeroed c.size.toNat c.bits = .error fault) ↔
      ∃ n : Int32, n < 0 ∧ c = .int32 n := by
  have hslice : c.size.toNat ≤ Scratch.zeroed.bytes.length := by
    rw [Scratch.length_bytes_zeroed]
    exact Scratch.size_le_capacity c
  have hcount : 1 ≤ c.size.toNat ∧ c.size.toNat ≤ 8 := ⟨c.size_pos, c.size_le_eight⟩
  constructor
  · rintro ⟨fault, hfault⟩
    have hwide : ¬ c.bits.toNat < 256 ^ c.size.toNat := by
      intro hfits
      rw [Guarded.writeNumber_eq hslice hcount hfits] at hfault
      cases hfault
    rcases eq_int32_or_bits_lt hc with ⟨n, rfl⟩ | hfits
    · rw [bits_int32_lt_iff] at hwide
      exact ⟨n, Int32.not_le.1 hwide, rfl⟩
    · exact absurd hfits hwide
  · rintro ⟨n, hn, rfl⟩
    refine ⟨_, Guarded.writeNumber_of_tooWide hslice hcount ?_⟩
    rw [bits_int32_lt_iff]
    exact Int32.not_le.2 hn

/-- No reinterpretation fails for the type of its source: the constructor takes every word that the
decoder reads. -/
theorem reinterpret_ne_unsupportedSource (order : ByteOrder) (c : Constant) (t u : BasicType) :
    c.reinterpret order t ≠ .error (.unsupportedSource u) := by
  intro h
  rcases reinterpret_cases order c t with
    ⟨-, -, d, hd, -⟩ | ⟨-, hr⟩ | ⟨n, -, -, hr⟩ | ⟨-, -, hr⟩
  · rw [hd] at h
    cases h
  all_goals
    rw [hr] at h
    cases h

/-- A buffer is decoded as the buffer of a constant is, under a type of constants of its size,
exactly when it has the image of the constant at its front. -/
theorem decode_eq_decode_encode_iff (order : ByteOrder) (c : Constant) {t : BasicType}
    (ht : t ∈ types) (hsize : t.naturalSize = some c.size) {s : Scratch}
    (hs : s.bytes.length = Scratch.capacity) :
    s.decode order t = (Scratch.encode order c).decode order t ↔
      s.front c.size.toNat = c.image order := by
  have hcapacity := Scratch.size_le_capacity c
  rw [← Scratch.front_encode]
  apply Scratch.decode_eq_decode_iff order ht hsize
  · rwa [hs]
  · rwa [Scratch.length_bytes_encode]

/-- The scratch buffer is used within its bounds. On a machine that checks every operation a
reinterpretation never stops and gives the same answer: the mask is made by a shift of less than 64
bits, the number that is written has between one and eight bytes and fits in them, each slice ends
in the buffer, and the constructor takes what the decoder has read. So no reinterpretation fails for
the type of its source. The decoder finds the image of the constant at the front and zeros behind
it, and it reads the image, all of it and nothing else. The mask is needed: without it the write
would stop, for the negative integers of four bytes and for no other constants. -/
theorem reinterpret_within_bounds {c : Constant} (hc : Constructible c) (order : ByteOrder)
    (t : BasicType) :
    Guarded.reinterpret order c t = .ok (c.reinterpret order t) ∧
      (∀ u, c.reinterpret order t ≠ .error (.unsupportedSource u)) ∧
      (Scratch.encode order c).bytes =
        c.image order ++ List.replicate (Scratch.capacity - c.size.toNat) 0 ∧
      (t ∈ types → t.naturalSize = some c.size → ∀ s : Scratch,
        s.bytes.length = Scratch.capacity →
          (s.decode order t = (Scratch.encode order c).decode order t ↔
            s.front c.size.toNat = c.image order)) ∧
      ((∃ fault, Guarded.writeNumber .zeroed c.size.toNat c.bits = .error fault) ↔
        ∃ n : Int32, n < 0 ∧ c = .int32 n) := by
  have hmask := writeNumber_bits_iff hc.isNormal
  refine ⟨Guarded.reinterpret_eq order c t, reinterpret_ne_unsupportedSource order c t,
    Scratch.bytes_encode order c, ?_, hmask⟩
  intro ht hsize s hs
  exact decode_eq_decode_encode_iff order c ht hsize hs

/-- A negative integer of four bytes, whose word has 64 significant bits, is read as a float. -/
theorem reinterpret_within_bounds_minus_one :
    let c := Constant.int32 (-1)
    let ones : Scratch := ⟨List.replicate 64 0xFF⟩
    Constructible c ∧ BasicType.float32 ∈ types ∧ BasicType.float32.naturalSize = some c.size ∧
      ones.bytes.length = Scratch.capacity ∧
      Guarded.reinterpret .leastFirst c .float32 = .ok (.ok (.float32 0xFFFFFFFF)) ∧
      (Scratch.encode .leastFirst c).bytes = List.replicate 4 0xFF ++ List.replicate 60 0 ∧
      ones.decode .leastFirst .float32 =
        (Scratch.encode .leastFirst c).decode .leastFirst .float32 ∧
      ∃ fault, Guarded.writeNumber .zeroed 4 c.bits = .error fault := by
  intro c ones
  obtain ⟨hrun, -, hbytes, hread, hwrite⟩ :=
    reinterpret_within_bounds (.int32 (-1)) .leastFirst .float32
  exact ⟨.int32 (-1), by decide, rfl, rfl, hrun, hbytes, (hread (by decide) rfl ones rfl).2 rfl,
    hwrite.2 ⟨-1, by decide, rfl⟩⟩

end Constant

end TargetAbi
