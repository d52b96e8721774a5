import Mathlib.Data.List.Forall2
import TargetAbi.Text

/-!
# Texts up to ASCII case

What the lower-case text of another one is, character by character (`asciiLower_eq_iff`), and when
two texts have the same one: exactly if they differ in nothing but the case of ASCII letters
(`asciiLower_eq_asciiLower_iff`).
-/

set_option autoImplicit false

namespace TargetAbi.Text

variable {c d : Char} {s t : String}

/-- `d` is the small letter of `c`, if `c` is one of `A` to `Z`, and otherwise `c` itself. -/
def IsLowered (c d : Char) : Prop :=
  if 'A' ≤ c ∧ c ≤ 'Z' then d.toNat = c.toNat + 32 else d = c

/-- The two characters are equal, or one is the small letter of the other. -/
def SameButCase (c d : Char) : Prop :=
  c = d ∨ IsLowered c d ∨ IsLowered d c

/-- The three ranges of ASCII letters and digits. -/
theorem toNat_of_isAlphanum (h : c.isAlphanum = true) :
    (65 ≤ c.toNat ∧ c.toNat ≤ 90) ∨ (97 ≤ c.toNat ∧ c.toNat ≤ 122) ∨
      (48 ≤ c.toNat ∧ c.toNat ≤ 57) := by
  unfold Char.isAlphanum Char.isAlpha Char.isUpper Char.isLower Char.isDigit at h
  simp only [Bool.or_eq_true, Bool.and_eq_true, decide_eq_true_eq, ge_iff_le,
    UInt32.le_iff_toNat_le] at h
  exact or_assoc.1 h

theorem toNat_toLower_of_isUpper (h : 'A' ≤ c ∧ c ≤ 'Z') : c.toLower.toNat = c.toNat + 32 := by
  have hval : 'A'.val ≤ c.val ∧ c.val ≤ 'Z'.val := h
  have hle : c.val.toNat ≤ 90 := UInt32.le_iff_toNat_le.1 hval.2
  have hlt : c.val.toNat + 32 < 2 ^ 32 := by omega
  have hlower : c.toLower.val = c.val + 32 := congrArg Char.val (dif_pos hval)
  show c.toLower.val.toNat = c.val.toNat + 32
  rw [hlower, UInt32.toNat_add]
  exact Nat.mod_eq_of_lt hlt

theorem toLower_of_not_isUpper (h : ¬ ('A' ≤ c ∧ c ≤ 'Z')) : c.toLower = c :=
  dif_neg h

theorem isLowered_iff : IsLowered c d ↔ c.toLower = d := by
  unfold IsLowered
  split
  · rename_i h
    rw [← toNat_toLower_of_isUpper h, Char.toNat_inj, eq_comm]
  · rename_i h
    rw [toLower_of_not_isUpper h, eq_comm]

theorem toLower_toLower (c : Char) : c.toLower.toLower = c.toLower := by
  by_cases h : 'A' ≤ c ∧ c ≤ 'Z'
  · have hnat := toNat_toLower_of_isUpper h
    have hA : 65 ≤ c.toNat := h.1
    apply toLower_of_not_isUpper
    intro hupper
    have hZ : c.toLower.toNat ≤ 90 := hupper.2
    omega
  · rw [toLower_of_not_isUpper h, toLower_of_not_isUpper h]

theorem sameButCase_iff : SameButCase c d ↔ c.toLower = d.toLower := by
  unfold SameButCase
  rw [isLowered_iff, isLowered_iff]
  constructor
  · rintro (rfl | rfl | rfl)
    · rfl
    · exact (toLower_toLower c).symm
    · exact toLower_toLower d
  · intro h
    by_cases hc : 'A' ≤ c ∧ c ≤ 'Z'
    · by_cases hd : 'A' ≤ d ∧ d ≤ 'Z'
      · have hnat := congrArg Char.toNat h
        rw [toNat_toLower_of_isUpper hc, toNat_toLower_of_isUpper hd] at hnat
        exact Or.inl (Char.toNat_inj.1 (Nat.add_right_cancel hnat))
      · rw [toLower_of_not_isUpper hd] at h
        exact Or.inr (Or.inl h)
    · rw [toLower_of_not_isUpper hc] at h
      exact Or.inr (Or.inr h.symm)

/-- The lower-case text is made character by character. -/
theorem asciiLower_eq_iff : asciiLower s = t ↔ List.Forall₂ IsLowered s.toList t.toList := by
  have hrel : IsLowered = fun c d => c.toLower = d := by
    funext c d
    exact propext isLowered_iff
  rw [← String.toList_inj, toList_asciiLower, hrel, ← List.forall₂_eq_eq_eq,
    List.forall₂_map_left_iff]

/-- Two texts have the same lower-case text exactly if they differ in case only. -/
theorem asciiLower_eq_asciiLower_iff :
    asciiLower s = asciiLower t ↔ List.Forall₂ SameButCase s.toList t.toList := by
  have hrel : SameButCase = fun c d => c.toLower = d.toLower := by
    funext c d
    exact propext sameButCase_iff
  rw [← String.toList_inj, toList_asciiLower, toList_asciiLower, hrel, ← List.forall₂_eq_eq_eq,
    List.forall₂_map_left_iff, List.forall₂_map_right_iff]

end TargetAbi.Text
