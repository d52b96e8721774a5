import TargetAbi.DecodeError
import TargetAbi.Proofs.Lookup

/-!
# Names of operating system families

When the readers of family names have a result. An unknown name is an error that keeps the name. A
name that stands for a family has letters and digits only, in whatever case it is written.
-/

set_option autoImplicit false

namespace TargetAbi.OsFamily

variable {s : String} {os : OsFamily}

theorem parse_eq_ok_iff : parse s = .ok os ↔ ofName? s = some os := by
  unfold parse
  cases ofName? s with
  | none => simp
  | some found => simp

theorem parse_eq_error_iff {e : UnknownOs} : parse s = .error e ↔ ofName? s = none ∧ e = ⟨s⟩ := by
  unfold parse
  cases ofName? s with
  | none => simp [eq_comm]
  | some found => simp

theorem decodeName_eq_ok_iff : decodeName s = .ok os ↔ parse s = .ok os := by
  unfold decodeName
  cases parse s with
  | ok found => simp
  | error e => simp

theorem ofName?_name (os : OsFamily) : ofName? os.name = some os := by
  cases os <;> rfl

/-! ## Letters of names -/

theorem isAlphanum_of_isAlphanum_toLower {c : Char} (h : c.toLower.isAlphanum = true) :
    c.isAlphanum = true := by
  unfold Char.toLower at h
  split at h
  · rename_i hupper
    have hupper : c.isUpper = true := by
      unfold Char.isUpper
      simpa using hupper
    unfold Char.isAlphanum Char.isAlpha
    rw [hupper, Bool.true_or, Bool.true_or]
  · exact h

theorem all_isAlphanum_name (os : OsFamily) : os.name.toList.all Char.isAlphanum = true := by
  cases os <;> rfl

theorem all_isAlphanum_of_ofLowerName? (h : ofLowerName? s = some os) :
    s.toList.all Char.isAlphanum = true := by
  unfold ofLowerName? at h
  rcases Option.or_eq_some_iff.1 h with halias | ⟨-, hname⟩
  · have hall : aliases.all (fun p => p.1.toList.all Char.isAlphanum) = true := rfl
    exact List.all_eq_true.1 hall (s, os) (mem_of_lookup_eq_some halias)
  · obtain rfl : os.name = s := by simpa using List.find?_some hname
    exact all_isAlphanum_name os

/-- A name of a family needs no escapes. -/
theorem isAlphanum_of_ofName? (h : ofName? s = some os) {c : Char} (hc : c ∈ s.toList) :
    c.isAlphanum = true := by
  apply isAlphanum_of_isAlphanum_toLower
  apply List.all_eq_true.1 (all_isAlphanum_of_ofLowerName? h)
  rw [Text.toList_asciiLower]
  exact List.mem_map_of_mem hc

end TargetAbi.OsFamily
