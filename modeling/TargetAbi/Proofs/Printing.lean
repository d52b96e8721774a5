import TargetAbi.Printing
import TargetAbi.Proofs.Lines

/-!
# Printing before a failure

A computation that first finds its results and prints last has printed nothing when it fails
(`CleanOnFailure`), whatever it has logged. The property is that of the last part, because the parts
before it print nothing (`cleanOnFailure_bind`).
-/

set_option autoImplicit false

namespace TargetAbi.Printing

open Text

variable {ε α β : Type}

/-- A computation that has printed nothing if it fails. -/
def CleanOnFailure (m : Printing ε α) : Prop :=
  ∀ e, m.result = .error e → m.stdout = ""

theorem cleanOnFailure_ofExcept (r : Except ε α) : CleanOnFailure (ofExcept r) := by
  intro e _
  rfl

theorem cleanOnFailure_of_ok {m : Printing ε α} {a : α} (h : m.result = .ok a) :
    CleanOnFailure m := by
  intro e he
  rw [h] at he
  cases he

theorem cleanOnFailure_bind {m : Printing ε α} {next : α → Printing ε β} (hm : m.stdout = "")
    (h : ∀ a, m.result = .ok a → CleanOnFailure (next a)) : CleanOnFailure (m >>= next) := by
  obtain ⟨text, records, result⟩ := m
  obtain rfl : text = "" := hm
  cases result with
  | error e =>
    intro e' _
    rfl
  | ok a =>
    intro e he
    have hclean : (next a).stdout = "" := h a rfl e he
    rw [mk_ok_bind, hclean, String.empty_append]

theorem cleanOnFailure_ofExcept_bind {r : Except ε α} {next : α → Printing ε β}
    (h : ∀ a, r = .ok a → CleanOnFailure (next a)) : CleanOnFailure (ofExcept r >>= next) :=
  cleanOnFailure_bind rfl h

/-- A loop that prints a line for every element prints all of them in order. -/
theorem forM_printLine (xs : List α) (line : α → String) :
    (forM xs fun x => (printLine (line x) : Printing ε Unit)) = print (unlines (xs.map line)) := by
  induction xs with
  | nil => rfl
  | cons x xs ih =>
    rw [List.forM_cons, printLine, print_bind, ih, List.map_cons, unlines_cons]
    rfl

end TargetAbi.Printing
