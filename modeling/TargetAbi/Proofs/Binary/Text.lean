import Mathlib.Data.List.DropRight
import Mathlib.Data.List.TakeWhile
import TargetAbi.Binary.Text
import TargetAbi.Proofs.Binary.Literal
import TargetAbi.Proofs.Binary.Shortest

/-!
# Written numbers read back

Every style lays out the digits of a decimal as a float literal for the same number
(`unsignedFloatNumeral_decimal`), with and without an exponent. As the shortest decimal of a
magnitude is rounded to it, the text of a pattern in any style is read as this pattern, unless it is
a NaN (`readLiteral_render`).
-/

set_option autoImplicit false

namespace TargetAbi.Binary

open Numeral

/-- A literal with a point and without an exponent. -/
theorem UnsignedFloatNumeral.of_point {whole fraction : List Char} {n : Nat}
    (h : Denotes 10 (whole ++ fraction) n) :
    UnsignedFloatNumeral (whole ++ '.' :: fraction) (n * 10 ^ (-fraction.length : Int)) := by
  simpa using UnsignedFloatNumeral.mk (.point fraction) h .none

namespace NumberStyle

variable {ds : List Char} {n : Nat} {f : Format} {m : Nat}

/-! ## Layouts -/

theorem exists_dropTrailingZeros_append (ds : List Char) :
    ∃ k, ds = dropTrailingZeros ds ++ List.replicate k '0' := by
  refine ⟨(ds.rtakeWhile (· == '0')).length, ?_⟩
  have hzeros : ds.rtakeWhile (· == '0') =
      List.replicate (ds.rtakeWhile (· == '0')).length '0' := by
    rw [List.eq_replicate_iff]
    exact ⟨rfl, fun c hc => by simpa using List.mem_rtakeWhile_imp hc⟩
  rw [← hzeros]
  exact (List.rdropWhile_append_rtakeWhile).symm

/-- Without the zeros at its end a numeral denotes the number without these factors of ten. -/
theorem denotes_dropTrailingZeros (h : Denotes 10 ds n) (hn : n ≠ 0) :
    ∃ r k, Denotes 10 (dropTrailingZeros ds) r ∧ n = r * 10 ^ k ∧
      ds.length = (dropTrailingZeros ds).length + k := by
  obtain ⟨k, hk⟩ := exists_dropTrailingZeros_append ds
  generalize dropTrailingZeros ds = front at hk ⊢
  subst hk
  -- digits that are all zeros denote zero
  have hne : front ≠ [] := by
    rintro rfl
    cases k with
    | zero => exact h.ne_nil rfl
    | succ k =>
      have hzero : Denotes 10 ['0'] 0 := .digit (by decide)
      rw [List.nil_append, List.replicate_succ'] at h
      exact hn (h.unique (hzero.zeros_append k))
  have hfront : Denotes 10 front (valueOf 10 front) :=
    denotes_iff.2 ⟨hne, fun c hc => h.isDigit c (List.mem_append_left _ hc), rfl⟩
  exact ⟨_, k, hfront, h.unique (hfront.append_zeros k), by simp⟩

/-- Digits and then zeros, one of them after the point, are a literal. -/
theorem unsignedFloatNumeral_zeros_after (h : Denotes 10 ds n) (k : Nat) :
    UnsignedFloatNumeral (ds ++ List.replicate k '0' ++ ['.', '0']) (n * 10 ^ k) := by
  have hdenotes : Denotes 10 (ds ++ List.replicate k '0' ++ ['0']) (n * 10 ^ (k + 1)) := by
    rw [List.append_assoc, ← List.replicate_succ']
    exact h.append_zeros (k + 1)
  have hvalue : (n * 10 ^ k : ℚ) = (n * 10 ^ (k + 1) : Nat) * 10 ^ (-1 : Int) := by
    push_cast
    rw [pow_succ]
    ring
  rw [hvalue]
  exact .of_point hdenotes

/-- Digits after the point, with zeros in front of them, are a literal. -/
theorem unsignedFloatNumeral_zeros_before (h : Denotes 10 ds n) (k : Nat) :
    UnsignedFloatNumeral ('0' :: '.' :: List.replicate k '0' ++ ds)
      (n * 10 ^ (-(k + ds.length : Nat) : Int)) := by
  have hdenotes : Denotes 10 (['0'] ++ (List.replicate k '0' ++ ds)) n :=
    h.zeros_append (k + 1)
  have hlength : k + ds.length = (List.replicate k '0' ++ ds).length := by
    rw [List.length_append, List.length_replicate]
  rw [hlength]
  exact .of_point hdenotes

/-- Digits with a point are a literal. -/
theorem unsignedFloatNumeral_positionalDigits (h : Denotes 10 ds n) (top : Int) :
    UnsignedFloatNumeral (positionalDigits ds top) (n * 10 ^ (top + 1 - ds.length)) := by
  unfold positionalDigits
  split
  · rename_i htop
    obtain ⟨t, rfl⟩ := Int.eq_ofNat_of_zero_le htop
    rw [Int.toNat_natCast]
    dsimp only
    rcases Nat.lt_or_ge (t + 1) ds.length with hlt | hge
    · -- the point is among the digits
      have hzeros : t + 1 - ds.length = 0 := by omega
      have hdrop : (ds.drop (t + 1)).isEmpty = false := by
        rw [List.isEmpty_eq_false_iff, Ne, List.drop_eq_nil_iff]
        omega
      have hexponent : (t : Int) + 1 - ds.length = -((ds.drop (t + 1)).length : Int) := by
        rw [List.length_drop]
        omega
      have hdenotes : Denotes 10 (ds.take (t + 1) ++ ds.drop (t + 1)) n := by
        rwa [List.take_append_drop]
      rw [hzeros, List.replicate_zero, List.append_nil, hdrop, if_neg Bool.false_ne_true, hexponent]
      exact .of_point hdenotes
    · have hexponent : (t : Int) + 1 - ds.length = (t + 1 - ds.length : Nat) := by omega
      rw [List.take_of_length_le hge, List.drop_of_length_le hge, hexponent, zpow_natCast]
      exact unsignedFloatNumeral_zeros_after h _
  · have hexponent : top + 1 - ds.length = -(((-top).toNat - 1 + ds.length : Nat) : Int) := by
      omega
    rw [hexponent]
    exact unsignedFloatNumeral_zeros_before h _

/-- The exponent of a number is written as its sign and its digits. -/
theorem exponentPart_of_sign (plus : Bool) (top : Int) :
    ExponentPart ('e' :: ((if top < 0 then ['-'] else if plus then ['+'] else []) ++
      decimalDigits top.natAbs)) top := by
  have hdigits := denotes_decimalDigits top.natAbs
  split
  · rename_i hneg
    have h := ExponentPart.letter (Or.inl rfl) .minus hdigits
    rwa [if_pos rfl, (by omega : -(top.natAbs : Int) = top)] at h
  · rename_i hnonneg
    have hsign : SignPart (if plus then ['+'] else []) false := by
      cases plus with
      | false => exact .none
      | true => exact .plus
    have h := ExponentPart.letter (Or.inl rfl) hsign hdigits
    rwa [if_neg Bool.false_ne_true, (by omega : (top.natAbs : Int) = top)] at h

/-- Digits with an exponent are a literal. -/
theorem unsignedFloatNumeral_exponentDigits (h : Denotes 10 ds n) (plus : Bool) (top : Int) :
    UnsignedFloatNumeral (exponentDigits plus ds top) (n * 10 ^ (top + 1 - ds.length)) := by
  have hpoint : PointPart (if (ds.drop 1).isEmpty then [] else '.' :: ds.drop 1) (ds.drop 1) := by
    split
    · rename_i hempty
      rw [List.isEmpty_iff.1 hempty]
      exact .none
    · exact .point _
  have hsplit : Denotes 10 (ds.take 1 ++ ds.drop 1) n := by rwa [List.take_append_drop]
  have hpos : 0 < ds.length := List.length_pos_iff.2 h.ne_nil
  have hexponent : top + 1 - ds.length = top - ((ds.drop 1).length : Int) := by
    rw [List.length_drop]
    omega
  have hmk := UnsignedFloatNumeral.mk hpoint hsplit (exponentPart_of_sign plus top)
  rw [hexponent]
  simpa [exponentDigits] using hmk

/-- The text of a positive decimal is a literal for its number. -/
theorem unsignedFloatNumeral_decimal (s : NumberStyle) {d : Decimal} (hd : d.digits ≠ 0) :
    UnsignedFloatNumeral (s.decimal d) d.value := by
  obtain ⟨r, k, hr, hn, hlength⟩ := denotes_dropTrailingZeros (denotes_decimalDigits d.digits) hd
  have hvalue : d.value = r * 10 ^ (d.exponent + (decimalDigits d.digits).length - 1 + 1 -
      (dropTrailingZeros (decimalDigits d.digits)).length) := by
    have hdigits : (d.digits : ℚ) = r * 10 ^ k := by exact_mod_cast hn
    rw [Decimal.value, hdigits, hlength]
    push_cast
    rw [mul_assoc, mul_comm (10 ^ k), zpow_mul_pow (by norm_num)]
    omega
  unfold decimal
  dsimp only
  rw [hvalue]
  split
  · exact unsignedFloatNumeral_positionalDigits hr _
  · exact unsignedFloatNumeral_exponentDigits hr _ _

/-! ## Magnitudes and patterns -/

/-- The text of a finite magnitude is a literal for a number that is rounded to it. -/
theorem exists_unsignedFloatNumeral_magnitude (s : NumberStyle) (hf : f.IsInterchange)
    (hm : m < f.infinity) : ∃ q, UnsignedFloatNumeral (s.magnitude f m) q ∧ f.Rounds q m := by
  unfold magnitude
  rw [if_neg hm.ne]
  split
  · rename_i hzero
    have hdigit : Denotes 10 ['0'] 0 := .digit (by decide)
    have hdenotes : Denotes 10 (['0'] ++ ['0']) 0 := hdigit.zeros_append 1
    refine ⟨_, UnsignedFloatNumeral.of_point hdenotes, ?_⟩
    rw [hzero]
    exact Format.rounds_zero_of_lt hf (by simp) (by simp)
  · rename_i hne
    exact ⟨_, s.unsignedFloatNumeral_decimal (f.digits_shortest_ne_zero s.tie hne),
      Format.rounds_shortest hf s.tie hne hm⟩

/-- The text of a pattern that is no NaN is read as the pattern. -/
theorem readLiteral_render (s : NumberStyle) (hf : f.IsInterchange) {bits : Nat}
    (hbits : bits < 2 ^ f.width) (hnan : ¬ f.IsNaN bits) :
    f.readLiteral (s.render f bits) = .ok bits := by
  have hpattern : f.withSign (f.isNegative bits) (f.magnitude bits) = bits := by
    apply Format.withSign_magnitude
    rwa [← hf.two_pow_width]
  rw [hf.isNaN_iff] at hnan
  unfold render
  dsimp only
  rw [if_neg hnan]
  rcases Nat.lt_or_eq_of_le (Nat.not_lt.1 hnan) with hfinite | hinfinite
  · obtain ⟨q, hq, hround⟩ := s.exists_unsignedFloatNumeral_magnitude hf hfinite
    have hnumeral : FloatNumeral (if f.isNegative bits then '-' :: s.magnitude f (f.magnitude bits)
        else s.magnitude f (f.magnitude bits)) (f.isNegative bits) q := by
      cases f.isNegative bits with
      | false => exact .mk .none hq
      | true => exact .mk .minus hq
    obtain ⟨m, hread, hm⟩ := hnumeral.exists_readLiteral hf
    rw [hread, hm.unique hf hround, hpattern]
  · have hinf : s.magnitude f (f.magnitude bits) = "inf".toList := by
      rw [magnitude, if_pos hinfinite]
    have hread (negative : Bool) :
        f.readLiteral (if negative then '-' :: "inf".toList else "inf".toList) =
          .ok (f.withSign negative f.infinity) := by
      cases negative <;> rfl
    rw [hinf, hread, ← hinfinite, hpattern]

end NumberStyle

end TargetAbi.Binary
