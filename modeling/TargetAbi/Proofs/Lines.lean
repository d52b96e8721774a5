import TargetAbi.Proofs.Blank
import TargetAbi.Text.Numeral

/-!
# Lines

Texts without line feeds, and texts that consist of such lines with a line feed after each
(`HasLines`). What the program writes from its own words and numbers is visible ASCII
(`isVisible`) with spaces between, and so never ends a line.
-/

set_option autoImplicit false

namespace TargetAbi.Text

/-- A text without a line feed. -/
def IsLine (s : String) : Prop :=
  '\n' ∉ s.toList

/-- The given texts with a line feed after each. -/
def unlines (lines : List String) : String :=
  String.join (lines.map (· ++ "\n"))

/-- `s` consists of the given lines, with a line feed after each and none inside of them. -/
def HasLines (s : String) (lines : List String) : Prop :=
  s = unlines lines ∧ ∀ line ∈ lines, IsLine line

instance (s : String) : Decidable (IsLine s) :=
  inferInstanceAs (Decidable ('\n' ∉ s.toList))

@[simp] theorem unlines_nil : unlines [] = "" := rfl

@[simp] theorem unlines_cons (line : String) (lines : List String) :
    unlines (line :: lines) = line ++ "\n" ++ unlines lines :=
  String.join_cons

@[simp] theorem isLine_append {s t : String} : IsLine (s ++ t) ↔ IsLine s ∧ IsLine t := by
  simp [IsLine, String.toList_append, List.mem_append, not_or]

/-- Whether a character is one of ASCII other than the space and the control characters. -/
def isVisible (c : Char) : Bool :=
  0x21 ≤ c.toNat && c.toNat ≤ 0x7E

theorem isVisible_iff {c : Char} : isVisible c = true ↔ 0x21 ≤ c.toNat ∧ c.toNat ≤ 0x7E := by
  rw [isVisible, Bool.and_eq_true, decide_eq_true_iff, decide_eq_true_iff]

theorem isBlank_of_isVisible {c : Char} (h : isVisible c = true) : isBlank c = false := by
  obtain ⟨hleast, hmost⟩ := isVisible_iff.1 h
  simp [isBlank]
  omega

/-- A text of visible characters has nothing to trim. -/
theorem trimBlank_eq_self_of_isVisible {cs : List Char} (h : ∀ c ∈ cs, isVisible c = true) :
    trimBlank cs = cs := by
  apply trimBlank_eq_self
  · intro c hc
    exact isBlank_of_isVisible (h c (List.mem_of_mem_head? hc))
  · intro c hc
    exact isBlank_of_isVisible (h c (List.mem_of_getLast? hc))

theorem isLine_of_isVisible {s : String} (h : ∀ c ∈ s.toList, isVisible c = true) : IsLine s := by
  intro hfeed
  exact absurd (h _ hfeed) (by decide)

theorem isVisible_of_mem_decimalDigits {n : Nat} {c : Char} (h : c ∈ Numeral.decimalDigits n) :
    isVisible c = true := by
  have hdigit := Nat.isDigit_of_mem_toDigits (by decide) (by decide) h
  simp only [Char.isDigit, Bool.and_eq_true, decide_eq_true_iff, ge_iff_le, UInt32.le_iff_toNat_le]
    at hdigit
  obtain ⟨hleast, hmost⟩ := hdigit
  exact isVisible_iff.2 ⟨Nat.le_trans (by decide) hleast, Nat.le_trans hmost (by decide)⟩

theorem isLine_decimal (n : Nat) : IsLine (Numeral.decimal n) := by
  apply isLine_of_isVisible
  rw [Numeral.decimal, String.toList_ofList]
  intro c
  exact isVisible_of_mem_decimalDigits

end TargetAbi.Text
