import TargetAbi.Target

/-!
# Names with a symbol prefix

Symbol prefixes are put in front of a name call by call, and a name may go through many calls for
different targets and linkages. A call writes at most one underscore in front of what is there
(`apply_eq`) and never looks at the bytes of the name. So after any run of calls the name stands
intact behind one underscore for each call that asks for C++ on macOS (`prefixAll_eq`): a name that
already begins with underscores gets further ones, and bytes that are no text are names like others.
-/

set_option autoImplicit false

namespace TargetAbi

/-- A call that puts a prefix in front of a name, for a configuration or for a resolved target. -/
inductive PrefixCall where
  | ofConfig (c : Config) (linkage : Linkage)
  | ofTarget (t : Target) (linkage : Linkage)

namespace PrefixCall

/-- The linkage of the name. -/
def linkage : PrefixCall → Linkage
  | ofConfig _ l => l
  | ofTarget _ l => l

/-- The operating system family that the name is for. -/
def os : PrefixCall → OsFamily
  | ofConfig c _ => c.os
  | ofTarget t _ => t.config.os

/-- The name after the call. -/
def apply (name : List UInt8) : PrefixCall → List UInt8
  | ofConfig c l => prefixName c l name
  | ofTarget t l => t.prefixName l name

/-- The name after calls that are made one after the other. -/
def prefixAll (calls : List PrefixCall) (name : List UInt8) : List UInt8 :=
  calls.foldl apply name

/-- The number of calls for C++ names on macOS. -/
def machOCount (calls : List PrefixCall) : Nat :=
  calls.countP fun call => call.linkage = .cpp ∧ call.os = .macos

/-! ## One call -/

theorem prefixName_eq (c : Config) (l : Linkage) (name : List UInt8) :
    prefixName c l name =
      List.replicate (if l = .cpp ∧ c.os = .macos then 1 else 0) underscore ++ name := by
  unfold prefixName
  split
  · rfl
  · rfl

/-- A call for a C++ name on macOS writes one underscore in front, any other call nothing. -/
theorem apply_eq (call : PrefixCall) (name : List UInt8) :
    call.apply name = List.replicate (machOCount [call]) underscore ++ name := by
  rw [machOCount, List.countP_singleton]
  simp only [decide_eq_true_eq]
  cases call with
  | ofConfig c l => exact prefixName_eq c l name
  | ofTarget t l => exact prefixName_eq t.config l name

/-! ## Runs of calls -/

/-- After a run of calls the name stands behind one underscore for each of them that writes one. -/
theorem prefixAll_eq (calls : List PrefixCall) (name : List UInt8) :
    prefixAll calls name = List.replicate (machOCount calls) underscore ++ name := by
  -- by induction on the calls that are left, from the name that the calls before have made
  induction calls generalizing name with
  | nil => rfl
  | cons call calls ih =>
    have hcount : machOCount (call :: calls) = machOCount calls + machOCount [call] := by
      rw [machOCount, machOCount, machOCount, ← List.singleton_append, List.countP_append,
        Nat.add_comm]
    calc prefixAll (call :: calls) name
        = prefixAll calls (call.apply name) := rfl
      _ = List.replicate (machOCount calls) underscore ++
            (List.replicate (machOCount [call]) underscore ++ name) := by rw [ih, apply_eq]
      _ = List.replicate (machOCount (call :: calls)) underscore ++ name := by
          rw [← List.append_assoc, List.replicate_append_replicate, hcount]

/-- The name after a run of calls: the bytes as they were, with exactly one underscore in front for
each call for C++ on macOS. The order of the calls does not matter, the bytes are intact after each
of the calls, and names that were different stay so. -/
theorem prefixAll_frame (calls : List PrefixCall) (name : List UInt8) :
    prefixAll calls name =
        List.replicate (calls.countP fun call => call.linkage = .cpp ∧ call.os = .macos)
          '_'.toUInt8 ++ name ∧
      (∀ other : List PrefixCall, other.Perm calls → prefixAll other name = prefixAll calls name) ∧
      (∀ i, name <:+ prefixAll (calls.take i) name) ∧
      Function.Injective (prefixAll calls) := by
  refine ⟨prefixAll_eq calls name, ?_, ?_, ?_⟩
  · intro other hother
    rw [prefixAll_eq, prefixAll_eq, machOCount, machOCount, hother.countP_eq]
  · intro i
    rw [prefixAll_eq]
    exact List.suffix_append _ name
  · intro name₁ name₂ h
    rw [prefixAll_eq, prefixAll_eq] at h
    exact List.append_cancel_left h

/-- A name that is no text and already has an underscore goes through calls for three targets, in
either order. -/
theorem prefixAll_frame_mixed :
    let macos := Target.ofConfig (.lp64 .macos)
    let calls : List PrefixCall := [.ofTarget macos .cpp, .ofConfig (.lp64 .linux) .cpp,
      .ofTarget macos .c, .ofConfig (.ilp32 .macos) .cpp]
    calls.reverse.Perm calls ∧
      prefixAll calls.reverse [0x5F, 0xFF] = prefixAll calls [0x5F, 0xFF] ∧
      prefixAll calls [0x5F, 0xFF] = [0x5F, 0x5F, 0x5F, 0xFF] := by
  intro macos calls
  obtain ⟨heq, horder, -⟩ := prefixAll_frame calls [0x5F, 0xFF]
  exact ⟨calls.reverse_perm, horder calls.reverse calls.reverse_perm, heq⟩

end PrefixCall

end TargetAbi
