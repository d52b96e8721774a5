/-!
# Numerals

Digits and the numbers they stand for, in the two bases that the library reads and writes.

* `digitValue? b c`: what the digit `c` is worth in base `b`, if it is one.
* `valueOf b cs`: the number that the digits `cs` denote, most significant first.
* `decimal n`, `signedDecimal i`: the decimal numeral without leading zeros.
* `hexFixed w n`: the last `w` hexadecimal digits of `n` in upper case; `hex n`: as many as needed;
  `hexPadded w n`: as many as needed, and `w` at least.
-/

set_option autoImplicit false

namespace TargetAbi.Numeral

/-- The value of an ASCII digit or letter `0`-`9`, `a`-`f`, `A`-`F`. -/
def hexValue? (c : Char) : Option Nat :=
  if '0' ≤ c ∧ c ≤ '9' then some (c.toNat - '0'.toNat)
  else if 'a' ≤ c ∧ c ≤ 'f' then some (c.toNat - 'a'.toNat + 10)
  else if 'A' ≤ c ∧ c ≤ 'F' then some (c.toNat - 'A'.toNat + 10)
  else none

/-- The value of `c` as a digit of base `base`, for bases up to sixteen. -/
def digitValue? (base : Nat) (c : Char) : Option Nat :=
  (hexValue? c).filter (· < base)

/-- Whether `c` is a digit of base `base`. -/
def isDigit (base : Nat) (c : Char) : Bool :=
  (digitValue? base c).isSome

/-- The number denoted by the digits `cs`, most significant first; a character that is no digit
counts as zero. -/
def valueOf (base : Nat) (cs : List Char) : Nat :=
  cs.foldl (fun n c => n * base + (digitValue? base c).getD 0) 0

/-- The decimal digits of a natural number, without leading zeros. -/
def decimalDigits (n : Nat) : List Char :=
  Nat.toDigits 10 n

/-- The decimal numeral of a natural number. -/
def decimal (n : Nat) : String :=
  String.ofList (decimalDigits n)

/-- The decimal numeral of an integer, with `-` in front of a negative one. -/
def signedDecimal (i : Int) : String :=
  String.ofList (if i < 0 then '-' :: decimalDigits i.natAbs else decimalDigits i.natAbs)

/-- The upper-case hexadecimal digit of `n % 16`. -/
def hexDigit (n : Nat) : Char :=
  (Nat.digitChar (n % 16)).toUpper

/-- The last `width` hexadecimal digits of `n`, in upper case and with leading zeros. -/
def hexFixed : Nat → Nat → List Char
  | 0, _ => []
  | width + 1, n => hexFixed width (n / 16) ++ [hexDigit n]

/-- The upper-case hexadecimal numeral of `n` without leading zeros. -/
def hex (n : Nat) : List Char :=
  (Nat.toDigits 16 n).map Char.toUpper

/-- The hexadecimal numeral of `n`, with zeros in front of it up to the least width. -/
def hexPadded (width n : Nat) : List Char :=
  List.replicate (width - (hex n).length) '0' ++ hex n

@[simp] theorem length_hexFixed (width n : Nat) : (hexFixed width n).length = width := by
  induction width generalizing n with
  | zero => rfl
  | succ width ih => simp [hexFixed, ih]

end TargetAbi.Numeral
