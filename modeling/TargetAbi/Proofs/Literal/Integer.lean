import TargetAbi.Proofs.Blank
import TargetAbi.Proofs.Constant.Constructible
import TargetAbi.Proofs.Constant.Value
import TargetAbi.Proofs.Numeral

/-!
# Integer literals

Which texts are literals of an integer type, and which constants they denote. A literal that starts
with `0x` or `0X` gives the low bits of the constant, so the range of its number is that of the bit
patterns; any other literal gives the value, which has to lie in the range of the type. White space
around a literal and underscores in it do not count (`read_integer_literal`).
-/

set_option autoImplicit false

namespace TargetAbi

open Numeral

namespace IntegerType

variable {t : IntegerType} {cs body : List Char} {w : UInt64}

/-! ## Words of literals -/

/-- A text that starts like a hexadecimal literal, with what follows the two characters. -/
def IsHexadecimal (cs body : List Char) : Prop :=
  cs = '0' :: 'x' :: body ∨ cs = '0' :: 'X' :: body

theorem patterns_eq (t : IntegerType) : t.patterns = 2 ^ t.width := rfl

theorem readDecimal_eq_ok_iff :
    t.readDecimal cs = .ok w ↔
      ∃ i, IntegerNumeral t.signedness cs i ∧ t.InRange i ∧ UInt64.ofInt i = w := by
  unfold readDecimal InRange
  cases ht : t.signedness with
  | unsigned =>
    have hpos : 0 < 2 ^ t.width := Nat.two_pow_pos _
    dsimp only
    rw [map_eq_ok_iff, patterns_eq]
    constructor
    · rintro ⟨n, hread, rfl⟩
      obtain ⟨hn, hlimit⟩ := readNatural_eq_ok_iff.1 hread
      have hlt : n < 2 ^ t.width := by omega
      exact ⟨n, .natural hn, ⟨by omega, by exact_mod_cast hlt⟩, ofInt_natCast n⟩
    · rintro ⟨i, hi, ⟨-, hmost⟩, rfl⟩
      obtain ⟨n, hn, rfl⟩ := integerNumeral_unsigned_iff.1 hi
      have hlt : n < 2 ^ t.width := by exact_mod_cast hmost
      exact ⟨n, readNatural_eq_ok_iff.2 ⟨hn, by omega⟩, (ofInt_natCast n).symm⟩
  | signed =>
    have hpos : 0 < 2 ^ (t.width - 1) := Nat.two_pow_pos _
    have hhalf : t.patterns / 2 = 2 ^ (t.width - 1) := by
      cases t <;> rfl
    have hcast : ((2 ^ (t.width - 1) : Nat) : Int) = 2 ^ (t.width - 1) := by push_cast; rfl
    dsimp only
    rw [map_eq_ok_iff, hhalf, ← hcast]
    constructor
    · rintro ⟨i, hread, rfl⟩
      obtain ⟨hi, hrange⟩ := (readInteger_eq_ok_iff hpos).1 hread
      exact ⟨i, hi, hrange, rfl⟩
    · rintro ⟨i, hi, hrange, rfl⟩
      exact ⟨i, (readInteger_eq_ok_iff hpos).2 ⟨hi, hrange⟩, rfl⟩

/-- The word of a literal that starts with `0x` or `0X`. -/
theorem readWord_hexadecimal (h : IsHexadecimal cs body) :
    t.readWord cs =
      match readNatural 16 (UInt64.size - 1) (body.filter (· != '_')) with
      | .error e => .error (.notHexadecimal (String.ofList cs) e)
      | .ok n =>
        if t.patterns ≤ n then .error (.doesNotFit (String.ofList cs) t)
        else .ok (UInt64.ofNat n) := by
  rcases h with rfl | rfl
  · rfl
  · rfl

theorem readWord_decimal (h : ∀ body, ¬ IsHexadecimal cs body) :
    t.readWord cs =
      match t.readDecimal (cs.filter (· != '_')) with
      | .error e => .error (.notInteger (String.ofList cs) t e)
      | .ok w => .ok w := by
  unfold readWord
  split
  · exact absurd (Or.inl rfl) (h _)
  · exact absurd (Or.inr rfl) (h _)
  · rfl

theorem readWord_hexadecimal_eq_ok_iff (h : IsHexadecimal cs body) :
    t.readWord cs = .ok w ↔
      ∃ n, UnsignedNumeral 16 (body.filter (· != '_')) n ∧ n < 2 ^ t.width ∧
        UInt64.ofNat n = w := by
  have hwidth : 2 ^ t.width ≤ 2 ^ 64 := Nat.pow_le_pow_right (by decide) t.width_le
  rw [readWord_hexadecimal h, patterns_eq]
  constructor
  · intro hw
    split at hw
    · cases hw
    · rename_i n hread
      obtain ⟨hn, -⟩ := readNatural_eq_ok_iff.1 hread
      split at hw
      · cases hw
      · cases hw
        exact ⟨n, hn, by omega, rfl⟩
  · rintro ⟨n, hn, hlt, rfl⟩
    have hread : readNatural 16 (UInt64.size - 1) (body.filter (· != '_')) = .ok n :=
      readNatural_eq_ok_iff.2 ⟨hn, by rw [UInt64.size]; omega⟩
    rw [hread]
    simp [Nat.not_le.2 hlt]

theorem readWord_decimal_eq_ok_iff (h : ∀ body, ¬ IsHexadecimal cs body) :
    t.readWord cs = .ok w ↔
      ∃ i, IntegerNumeral t.signedness (cs.filter (· != '_')) i ∧ t.InRange i ∧
        UInt64.ofInt i = w := by
  rw [readWord_decimal h, ← readDecimal_eq_ok_iff]
  cases t.readDecimal (cs.filter (· != '_')) with
  | error e => simp
  | ok w' => simp

end IntegerType

/-! ## Constants of literals -/

namespace Constant

open IntegerType

variable {t : IntegerType} {text : String} {body : List Char} {c : Constant}

theorem read_toBasic_eq_ok_iff :
    Constant.read text t.toBasic = .ok c ↔
      ∃ w, t.readWord (Text.trimBlank text.toList) = .ok w ∧ c = .integer t (t.extend w) := by
  have hread : Constant.read text t.toBasic =
      (t.readWord (Text.trimBlank text.toList)).map fun w => .integer t (t.extend w) := by
    simp only [Constant.read, ofBasic?_toBasic]
    cases t.readWord (Text.trimBlank text.toList) <;> rfl
  rw [hread, map_eq_ok_iff]
  simp only [eq_comm]

theorem read_hexadecimal_eq_ok_iff (h : IsHexadecimal (Text.trimBlank text.toList) body) :
    Constant.read text t.toBasic = .ok c ↔
      ∃ n, UnsignedNumeral 16 (body.filter (· != '_')) n ∧ n < 2 ^ t.width ∧
        c = .integer t (t.extend (UInt64.ofNat n)) := by
  rw [read_toBasic_eq_ok_iff]
  constructor
  · rintro ⟨w, hw, rfl⟩
    obtain ⟨n, hn, hlt, rfl⟩ := (readWord_hexadecimal_eq_ok_iff h).1 hw
    exact ⟨n, hn, hlt, rfl⟩
  · rintro ⟨n, hn, hlt, rfl⟩
    exact ⟨_, (readWord_hexadecimal_eq_ok_iff h).2 ⟨n, hn, hlt, rfl⟩, rfl⟩

theorem read_decimal_eq_ok_iff (h : ∀ body, ¬ IsHexadecimal (Text.trimBlank text.toList) body) :
    Constant.read text t.toBasic = .ok c ↔
      ∃ i, IntegerNumeral t.signedness ((Text.trimBlank text.toList).filter (· != '_')) i ∧
        t.InRange i ∧ c = .integer t (t.extend (UInt64.ofInt i)) := by
  rw [read_toBasic_eq_ok_iff]
  constructor
  · rintro ⟨w, hw, rfl⟩
    obtain ⟨i, hi, hrange, rfl⟩ := (readWord_decimal_eq_ok_iff h).1 hw
    exact ⟨i, hi, hrange, rfl⟩
  · rintro ⟨i, hi, hrange, rfl⟩
    exact ⟨_, (readWord_decimal_eq_ok_iff h).2 ⟨i, hi, hrange, rfl⟩, rfl⟩

/-- The constant whose word is extended from another one is normal, and keeps its low bits. -/
theorem isNormal_integer_extend (t : IntegerType) (w : UInt64) :
    (integer t (t.extend w)).IsNormal ∧
      (integer t (t.extend w)).lowBits.toNat = w.toNat % 2 ^ t.width := by
  have hbits : (integer t (t.extend w)).bits = _ := t.extend_eq_widen w
  obtain ⟨hnormal, hlow⟩ := isNormal_of_bits_eq_widen rfl hbits
  exact ⟨hnormal, hlow.trans (BitVec.toNat_setWidth _ _)⟩

/-- A number of as many bits as the type has is the number of the low bits of its constant. -/
theorem toNat_lowBits_extend_ofNat {n : Nat} (hn : n < 2 ^ t.width) :
    (integer t (t.extend (UInt64.ofNat n))).lowBits.toNat = n := by
  have hwidth : 2 ^ t.width ∣ 2 ^ 64 := Nat.pow_dvd_pow 2 t.width_le
  rw [(isNormal_integer_extend t _).2, UInt64.toNat_ofNat', Nat.mod_mod_of_dvd _ hwidth,
    Nat.mod_eq_of_lt hn]

/-- The grammar of integer literals. Without the white space at its ends, a text that starts with
`0x` or `0X` is a literal exactly when what follows is, without underscores, a hexadecimal numeral
with an optional plus sign for a number of as many bits as the type has; these are the low bits of
the constant. Any other text is a literal exactly when it is, without underscores, a decimal numeral
with an optional sign for a number in the range of the type; this is the value of the constant. -/
theorem read_integer_literal (t : IntegerType) (text : String) :
    ∃ s, Text.IsTrimmed text.toList s ∧
      (∀ body, IsHexadecimal s body →
        ((∃ c, Constant.read text t.toBasic = .ok c) ↔
          ∃ n, UnsignedNumeral 16 (body.filter (· != '_')) n ∧ n < 2 ^ t.width) ∧
        ∀ c n, Constant.read text t.toBasic = .ok c →
          UnsignedNumeral 16 (body.filter (· != '_')) n →
            c.type = t.toBasic ∧ c.IsNormal ∧ c.lowBits.toNat = n) ∧
      ((∀ body, ¬ IsHexadecimal s body) →
        ((∃ c, Constant.read text t.toBasic = .ok c) ↔
          ∃ i, IntegerNumeral t.signedness (s.filter (· != '_')) i ∧ t.InRange i) ∧
        ∀ c i, Constant.read text t.toBasic = .ok c →
          IntegerNumeral t.signedness (s.filter (· != '_')) i →
            c.IsNormal ∧ ∃ w, c = .integer t w ∧ t.valueOf w = i) := by
  refine ⟨Text.trimBlank text.toList, Text.isTrimmed_trimBlank _, ?_, ?_⟩
  · intro body hbody
    refine ⟨⟨?_, ?_⟩, ?_⟩
    · rintro ⟨c, hc⟩
      obtain ⟨n, hn, hlt, -⟩ := (read_hexadecimal_eq_ok_iff hbody).1 hc
      exact ⟨n, hn, hlt⟩
    · rintro ⟨n, hn, hlt⟩
      exact ⟨_, (read_hexadecimal_eq_ok_iff hbody).2 ⟨n, hn, hlt, rfl⟩⟩
    · intro c n hc hn
      obtain ⟨m, hm, hlt, rfl⟩ := (read_hexadecimal_eq_ok_iff hbody).1 hc
      -- a text denotes one number at most, so `n` is the number that was read
      obtain rfl := hm.unique hn
      exact ⟨rfl, (isNormal_integer_extend t _).1, toNat_lowBits_extend_ofNat hlt⟩
  · intro hdecimal
    refine ⟨⟨?_, ?_⟩, ?_⟩
    · rintro ⟨c, hc⟩
      obtain ⟨i, hi, hrange, -⟩ := (read_decimal_eq_ok_iff hdecimal).1 hc
      exact ⟨i, hi, hrange⟩
    · rintro ⟨i, hi, hrange⟩
      exact ⟨_, (read_decimal_eq_ok_iff hdecimal).2 ⟨i, hi, hrange, rfl⟩⟩
    · intro c i hc hi
      obtain ⟨j, hj, hrange, rfl⟩ := (read_decimal_eq_ok_iff hdecimal).1 hc
      obtain rfl := hj.unique hi
      exact ⟨(isNormal_integer_extend t _).1, _, rfl, valueOf_extend_ofInt hrange⟩

example : Constant.read " 0X+FFFF_ffff\n" .int32 = .ok (.int32 (-1)) := rfl

end Constant

end TargetAbi
