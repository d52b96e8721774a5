import TargetAbi.Constant

/-!
# Reinterpretation

A constant is read as another type of the same size by way of memory: its bytes are written to the
front of a zeroed scratch buffer and read back as the other type. Integers are always written least
significant byte first; floats are written in the byte order of the machine, which is a parameter.
-/

set_option autoImplicit false

namespace TargetAbi

/-- The order of the bytes of a float in memory. -/
inductive ByteOrder where
  | leastFirst
  | mostFirst
  deriving DecidableEq, Repr

namespace ByteOrder

/-- The low `n` bytes of a number, least significant first. -/
def leastFirstBytes : Nat → Nat → List UInt8
  | 0, _ => []
  | n + 1, v => UInt8.ofNat v :: leastFirstBytes n (v / 256)

/-- The number whose bytes are given, least significant first. -/
def ofLeastFirst : List UInt8 → Nat
  | [] => 0
  | b :: bs => b.toNat + 256 * ofLeastFirst bs

/-- The low `n` bytes of a number. -/
def bytes (order : ByteOrder) (n v : Nat) : List UInt8 :=
  match order with
  | leastFirst => leastFirstBytes n v
  | mostFirst => (leastFirstBytes n v).reverse

/-- The number whose bytes are given. -/
def ofBytes (order : ByteOrder) (bs : List UInt8) : Nat :=
  match order with
  | leastFirst => ofLeastFirst bs
  | mostFirst => ofLeastFirst bs.reverse

end ByteOrder

/-- The memory through which a constant is reinterpreted. -/
structure Scratch where
  bytes : List UInt8

namespace Scratch

/-- Bytes of a scratch buffer; values of up to 512 bits fit. -/
def capacity : Nat := 64

/-- A buffer that holds zeros. -/
def zeroed : Scratch := ⟨List.replicate capacity 0⟩

/-- The buffer with the bytes `bs` written over its front. -/
def write (s : Scratch) (bs : List UInt8) : Scratch := ⟨bs ++ s.bytes.drop bs.length⟩

/-- The first `n` bytes. -/
def front (s : Scratch) (n : Nat) : List UInt8 := s.bytes.take n

/-- The word with the low `8 * size` bits set. -/
def mask (size : Nat) : UInt64 :=
  if 8 ≤ size then 0xFFFFFFFFFFFFFFFF else (1 <<< UInt64.ofNat (size * 8)) - 1

/-- A zeroed buffer with the bytes of a constant at its front. -/
def encode (order : ByteOrder) : Constant → Scratch
  | .integer t b =>
    zeroed.write (ByteOrder.leastFirst.bytes t.size.toNat (b &&& mask t.size.toNat).toNat)
  | .float p b => zeroed.write (order.bytes p.size.toNat b.toNat)

/-- The constant of a type that the front of a buffer holds. -/
def decode (order : ByteOrder) (s : Scratch) (type : BasicType) :
    Except ReinterpretError Constant :=
  match IntegerType.ofBasic? type, type with
  | some t, _ =>
    Constant.integer? type (UInt64.ofNat (ByteOrder.leastFirst.ofBytes (s.front t.size.toNat)))
  | none, .float32 => .ok (.float32 (UInt32.ofNat (order.ofBytes (s.front 4))))
  | none, .float64 => .ok (.float64 (UInt64.ofNat (order.ofBytes (s.front 8))))
  | none, _ => .error (.unsupportedTarget type)

end Scratch

/-- The constant of the type `target` with the bits of `c`. A type without a natural size is
refused first, then one of another size, then one that no constant has. -/
def Constant.reinterpret (order : ByteOrder) (c : Constant) (target : BasicType) :
    Except ReinterpretError Constant :=
  match target.naturalSize with
  | none => .error (.unsupportedTarget target)
  | some size =>
    if c.size ≠ size then .error (.sizeMismatch c.type target c.size size)
    else (Scratch.encode order c).decode order target

end TargetAbi
