import Mathlib.Data.List.DropRight
import Mathlib.Data.List.TakeWhile
import TargetAbi.Text

/-!
# Trimming

What is left of a text without the white space at its ends, said without the function that removes
it: the text is the rest with white space before and after it, and the rest neither starts nor ends
with white space (`IsTrimmed`). There is exactly one such rest, and `trimBlank` finds it
(`trimBlank_eq_iff`).
-/

set_option autoImplicit false

namespace TargetAbi.Text

/-- `s` is `cs` without the white space at its ends. -/
structure IsTrimmed (cs s : List Char) : Prop where
  surrounded : ∃ front back, cs = front ++ s ++ back ∧ (∀ c ∈ front, isBlank c = true) ∧
    ∀ c ∈ back, isBlank c = true
  first : ∀ c, s.head? = some c → isBlank c = false
  last : ∀ c, s.getLast? = some c → isBlank c = false

theorem trimBlank_eq_rdropWhile (cs : List Char) :
    trimBlank cs = (cs.dropWhile isBlank).rdropWhile isBlank := rfl

theorem isBlank_of_head?_dropWhile {cs : List Char} {c : Char}
    (h : (cs.dropWhile isBlank).head? = some c) : isBlank c = false := by
  have hfirst := List.head?_dropWhile_not isBlank cs
  rw [h] at hfirst
  exact hfirst

theorem isTrimmed_trimBlank (cs : List Char) : IsTrimmed cs (trimBlank cs) := by
  rw [trimBlank_eq_rdropWhile]
  generalize hrest : cs.dropWhile isBlank = rest
  refine ⟨⟨cs.takeWhile isBlank, rest.rtakeWhile isBlank, ?_, ?_, ?_⟩, ?_, ?_⟩
  · rw [List.append_assoc, List.rdropWhile_append_rtakeWhile, ← hrest,
      List.takeWhile_append_dropWhile]
  · intro c hc
    exact List.mem_takeWhile_imp hc
  · intro c hc
    exact List.mem_rtakeWhile_imp hc
  · intro c hc
    -- what is kept is a front part of the rest, and so starts like it
    obtain ⟨back, hback⟩ := List.rdropWhile_prefix isBlank (l := rest)
    have hfirst : (cs.dropWhile isBlank).head? = some c := by
      rw [hrest, ← hback, List.head?_append, hc]
      rfl
    exact isBlank_of_head?_dropWhile hfirst
  · intro c hc
    rw [List.rdropWhile, List.getLast?_reverse] at hc
    exact isBlank_of_head?_dropWhile hc

theorem dropWhile_eq_self_of_head? {cs : List Char}
    (h : ∀ c, cs.head? = some c → isBlank c = false) : cs.dropWhile isBlank = cs := by
  cases cs with
  | nil => rfl
  | cons c cs => exact List.dropWhile_cons_of_neg (by simp [h c rfl])

/-- Trimming finds the one rest that neither starts nor ends with white space. -/
theorem trimBlank_eq_iff {cs s : List Char} : trimBlank cs = s ↔ IsTrimmed cs s := by
  constructor
  · rintro rfl
    exact isTrimmed_trimBlank cs
  · rintro ⟨⟨front, back, rfl, hfront, hback⟩, hfirst, hlast⟩
    have hreverse : (s.reverse.dropWhile isBlank) = s.reverse := by
      apply dropWhile_eq_self_of_head?
      rwa [List.head?_reverse]
    have hdrop : ((s ++ back).reverse.dropWhile isBlank).reverse = s := by
      rw [List.reverse_append, List.dropWhile_append_of_pos (by simpa using hback), hreverse,
        List.reverse_reverse]
    rw [trimBlank, List.append_assoc, List.dropWhile_append_of_pos hfront]
    cases s with
    | nil =>
      have hblank : back.dropWhile isBlank = [] := List.dropWhile_eq_nil_iff.2 hback
      rw [List.nil_append, hblank]
      rfl
    | cons c s =>
      rw [List.cons_append, List.dropWhile_cons_of_neg (by simp [hfirst c rfl])]
      exact hdrop

/-- A text without white space at its ends is not changed. -/
theorem trimBlank_eq_self {cs : List Char} (hfirst : ∀ c, cs.head? = some c → isBlank c = false)
    (hlast : ∀ c, cs.getLast? = some c → isBlank c = false) : trimBlank cs = cs :=
  trimBlank_eq_iff.2 ⟨⟨[], [], by simp, by simp, by simp⟩, hfirst, hlast⟩

end TargetAbi.Text
