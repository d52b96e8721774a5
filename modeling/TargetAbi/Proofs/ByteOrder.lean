import Mathlib.Algebra.Group.Nat.Defs
import TargetAbi.Constant.Reinterpret

/-!
# Numbers as bytes

Writing a number as `n` bytes and reading `n` bytes as a number, in either order. Reading back what
was written gives the number modulo `256 ^ n` (`ofBytes_bytes`), and writing back what was read
gives the same bytes (`bytes_ofBytes`), so for each order the lists of `n` bytes are the numbers
below `256 ^ n`. A number written in one order and read in the other is unchanged exactly when both
orders write it alike (`ofBytes_bytes_eq_iff`).
-/

set_option autoImplicit false

namespace TargetAbi.ByteOrder

theorem two_pow_eight_mul (n : Nat) : 2 ^ (8 * n) = 256 ^ n := by
  rw [Nat.pow_mul]

@[simp] theorem length_leastFirstBytes (n v : Nat) : (leastFirstBytes n v).length = n := by
  induction n generalizing v with
  | zero => rfl
  | succ n ih => rw [leastFirstBytes, List.length_cons, ih]

theorem ofLeastFirst_leastFirstBytes (n v : Nat) :
    ofLeastFirst (leastFirstBytes n v) = v % 256 ^ n := by
  induction n generalizing v with
  | zero => rw [Nat.pow_zero, Nat.mod_one]; rfl
  | succ n ih =>
    have hbyte : (UInt8.ofNat v).toNat = v % 256 := UInt8.toNat_ofNat'
    have hpow : 256 ^ (n + 1) = 256 * 256 ^ n := Nat.pow_succ'
    -- the first byte is the remainder by 256, the others are those of the quotient
    rw [leastFirstBytes, ofLeastFirst, ih, hbyte, hpow, Nat.mod_mul]

theorem ofLeastFirst_lt (bs : List UInt8) : ofLeastFirst bs < 256 ^ bs.length := by
  induction bs with
  | nil => exact Nat.zero_lt_one
  | cons b bs ih =>
    have hb : b.toNat < 256 := b.toNat_lt
    rw [ofLeastFirst, List.length_cons, Nat.pow_succ]
    omega

theorem leastFirstBytes_ofLeastFirst (bs : List UInt8) :
    leastFirstBytes bs.length (ofLeastFirst bs) = bs := by
  induction bs with
  | nil => rfl
  | cons b bs ih =>
    have hb : b.toNat < 256 := b.toNat_lt
    have hhead : UInt8.ofNat (b.toNat + 256 * ofLeastFirst bs) = b := by
      apply UInt8.toNat_inj.mp
      rw [UInt8.toNat_ofNat']
      omega
    have htail : (b.toNat + 256 * ofLeastFirst bs) / 256 = ofLeastFirst bs := by omega
    rw [ofLeastFirst, List.length_cons, leastFirstBytes, hhead, htail, ih]

@[simp] theorem length_bytes (order : ByteOrder) (n v : Nat) : (order.bytes n v).length = n := by
  cases order with
  | leastFirst => exact length_leastFirstBytes n v
  | mostFirst => rw [bytes, List.length_reverse, length_leastFirstBytes]

/-- Reading back what was written keeps the low `n` bytes. -/
theorem ofBytes_bytes (order : ByteOrder) (n v : Nat) :
    order.ofBytes (order.bytes n v) = v % 256 ^ n := by
  cases order with
  | leastFirst => exact ofLeastFirst_leastFirstBytes n v
  | mostFirst => rw [bytes, ofBytes, List.reverse_reverse, ofLeastFirst_leastFirstBytes]

theorem ofBytes_lt (order : ByteOrder) (bs : List UInt8) :
    order.ofBytes bs < 256 ^ bs.length := by
  cases order with
  | leastFirst => exact ofLeastFirst_lt bs
  | mostFirst =>
    have h := ofLeastFirst_lt bs.reverse
    rwa [List.length_reverse] at h

/-- Writing back what was read gives the same bytes. -/
theorem bytes_ofBytes (order : ByteOrder) (bs : List UInt8) :
    order.bytes bs.length (order.ofBytes bs) = bs := by
  cases order with
  | leastFirst => exact leastFirstBytes_ofLeastFirst bs
  | mostFirst =>
    have h := leastFirstBytes_ofLeastFirst bs.reverse
    rw [List.length_reverse] at h
    rw [bytes, ofBytes, h, List.reverse_reverse]

/-- The bytes of a number are those of its low `n` bytes. -/
theorem bytes_congr (order : ByteOrder) {n v w : Nat} (h : v % 256 ^ n = w % 256 ^ n) :
    order.bytes n v = order.bytes n w := by
  have hv := bytes_ofBytes order (order.bytes n v)
  have hw := bytes_ofBytes order (order.bytes n w)
  rw [length_bytes, ofBytes_bytes] at hv hw
  rw [← hv, ← hw, h]

/-- Bytes written in one order and read in another give the number back exactly when both orders
write the same bytes. -/
theorem ofBytes_bytes_eq_iff (written read : ByteOrder) (n v : Nat) :
    read.ofBytes (written.bytes n v) = v % 256 ^ n ↔ written.bytes n v = read.bytes n v := by
  constructor
  · intro h
    have hbytes := bytes_ofBytes read (written.bytes n v)
    rw [length_bytes, h] at hbytes
    rw [← hbytes]
    exact bytes_congr read (Nat.mod_mod v (256 ^ n))
  · intro h
    rw [h, ofBytes_bytes]

end TargetAbi.ByteOrder
