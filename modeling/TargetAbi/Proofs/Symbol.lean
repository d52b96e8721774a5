import TargetAbi.Target

/-!
# The choice of a mangler

A target is given a mangler of each family and uses one of them. Each call goes to the family of the
mangling scheme of the target, whatever the two manglers are and whichever of the two kinds of names
is asked for (`answersFrom_iff`). So the other mangler has no influence on the answers to any
sequence of calls (`foreignLinkage_exclusive`). The scheme, the linkage of system declarations and
the question for POSIX conventions tell the same families of operating systems apart.
-/

set_option autoImplicit false

namespace TargetAbi

variable {σ : Type}

/-! ## The three classifications of operating systems -/

theorem ManglingScheme.ofOs_eq_msvc_iff {os : OsFamily} : ofOs os = msvc ↔ os.isPosix = false := by
  cases os <;> decide

theorem Config.systemLinkage_eq_windows_iff {c : Config} :
    c.systemLinkage = .windows ↔ c.os.isPosix = false := by
  obtain ⟨os, is64bit, isLp64⟩ := c
  cases os <;> simp [Config.systemLinkage, OsFamily.isPosix]

theorem ManglingScheme.name_injective {s s' : ManglingScheme} (h : s.name = s'.name) : s = s' := by
  revert h
  cases s <;> cases s' <;> decide

/-! ## Calls -/

/-- A call to a mangler, for the name of a symbol or of the type-info object of a class. -/
inductive ManglerCall (σ : Type) where
  | mangle (symbol : σ)
  | mangleTypeInfo (symbol : σ)

/-- The answer of a mangler to a call. -/
def Mangler.answer (m : Mangler σ) : ManglerCall σ → String
  | .mangle symbol => m.mangle symbol
  | .mangleTypeInfo symbol => m.mangleTypeInfo symbol

namespace ForeignLinkage

/-- The answer of the selected mangler to a call. -/
def answer (f : ForeignLinkage σ) : ManglerCall σ → String
  | .mangle symbol => f.mangle symbol
  | .mangleTypeInfo symbol => f.mangleTypeInfo symbol

/-- The answers to calls that are made one after the other. -/
def answers (f : ForeignLinkage σ) (calls : List (ManglerCall σ)) : List String :=
  calls.map f.answer

/-- The selected mangler is the one of the family that is reported. -/
theorem select_eq (c : Config) (m : ManglingScheme → Mangler σ) :
    select c (m .itanium) (m .msvc) = ⟨.ofOs c.os, m (.ofOs c.os)⟩ := by
  unfold select
  cases ManglingScheme.ofOs c.os with
  | itanium => rfl
  | msvc => rfl

end ForeignLinkage

namespace Target

/-- The linkage of a target between a mangler of each family. -/
def linkageOf (t : Target) (m : ManglingScheme → Mangler σ) : ForeignLinkage σ :=
  t.foreignLinkage (m .itanium) (m .msvc)

/-- A call is answered by a family: its mangler gives the answer, whatever the manglers are. -/
def AnswersFrom (t : Target) (call : ManglerCall σ) (s : ManglingScheme) : Prop :=
  ∀ m : ManglingScheme → Mangler σ, (t.linkageOf m).answer call = (m s).answer call

variable {t : Target} {call : ManglerCall σ}

theorem linkageOf_eq (t : Target) (m : ManglingScheme → Mangler σ) :
    t.linkageOf m = ⟨t.manglingScheme, m t.manglingScheme⟩ :=
  ForeignLinkage.select_eq t.config m

theorem answersFrom_manglingScheme (t : Target) (call : ManglerCall σ) :
    t.AnswersFrom call t.manglingScheme := by
  intro m
  rw [linkageOf_eq]
  cases call with
  | mangle symbol => rfl
  | mangleTypeInfo symbol => rfl

/-- Every call, of either kind, is answered by one family, which is that of the target's scheme. -/
theorem answersFrom_iff {s : ManglingScheme} : t.AnswersFrom call s ↔ s = t.manglingScheme := by
  constructor
  · intro h
    -- manglers that answer with the name of their family
    let m : ManglingScheme → Mangler σ := fun s => ⟨fun _ => s.name, fun _ => s.name⟩
    have hname (s : ManglingScheme) : (m s).answer call = s.name := by
      cases call <;> rfl
    have hsame := (h m).symm.trans (answersFrom_manglingScheme t call m)
    rw [hname, hname] at hsame
    exact ManglingScheme.name_injective hsame
  · rintro rfl
    exact answersFrom_manglingScheme t call

/-- A whole sequence of calls is answered by the family of the target's scheme. -/
theorem answers_linkageOf (t : Target) (m : ManglingScheme → Mangler σ)
    (calls : List (ManglerCall σ)) :
    (t.linkageOf m).answers calls = calls.map (m t.manglingScheme).answer := by
  apply List.map_congr_left
  intro call _
  exact answersFrom_manglingScheme t call m

/-- How the target of a configuration uses two manglers. It reports the family of its mangling
scheme, and the mangler of this family answers every call of a sequence. Another mangler of the
other family leaves all answers as they are, and no call of either kind goes to the other family.
The scheme is that of Windows exactly where the system linkage of the target is, and exactly where
the operating system has no POSIX conventions. -/
theorem foreignLinkage_exclusive (c : Config) (m : ManglingScheme → Mangler σ)
    (calls : List (ManglerCall σ)) :
    let t := Target.ofConfig c
    let f := t.foreignLinkage (m .itanium) (m .msvc)
    f.scheme = t.manglingScheme ∧
      f.answers calls = calls.map (m f.scheme).answer ∧
      (∀ other : ManglingScheme → Mangler σ, other f.scheme = m f.scheme →
        (t.foreignLinkage (other .itanium) (other .msvc)).answers calls = f.answers calls) ∧
      (∀ (call : ManglerCall σ) s, t.AnswersFrom call s ↔ s = f.scheme) ∧
      (f.scheme = .msvc ↔ t.systemLinkage = .windows) ∧
      (f.scheme = .msvc ↔ c.os.isPosix = false) := by
  intro t f
  have hf : f = ⟨t.manglingScheme, m t.manglingScheme⟩ := linkageOf_eq t m
  have hscheme : f.scheme = t.manglingScheme := by rw [hf]
  have hposix : f.scheme = .msvc ↔ c.os.isPosix = false := by
    rw [hscheme]
    exact ManglingScheme.ofOs_eq_msvc_iff
  rw [hscheme] at hposix ⊢
  refine ⟨rfl, answers_linkageOf t m calls, ?_, fun call s => answersFrom_iff, ?_, hposix⟩
  · intro other hother
    show (t.linkageOf other).answers calls = (t.linkageOf m).answers calls
    rw [answers_linkageOf, answers_linkageOf, hother]
  · rw [hposix]
    exact Config.systemLinkage_eq_windows_iff.symm

/-- On Windows the answers of a mangler stay when the mangler of the other family is replaced. -/
theorem foreignLinkage_exclusive_windows :
    let tagged : String → Mangler String := fun tag =>
      ⟨fun symbol => tag ++ ":" ++ symbol, fun symbol => tag ++ ":typeinfo:" ++ symbol⟩
    let m : ManglingScheme → Mangler String := fun s => tagged s.name
    let other : ManglingScheme → Mangler String
      | .itanium => tagged "other"
      | .msvc => tagged "msvc"
    let calls := [.mangle "foo", .mangleTypeInfo "Base", .mangle "bar"]
    let t := Target.ofConfig (.ilp32 .windows)
    other .msvc = m .msvc ∧
      (t.foreignLinkage (other .itanium) (other .msvc)).answers calls =
        (t.foreignLinkage (m .itanium) (m .msvc)).answers calls ∧
      (t.foreignLinkage (m .itanium) (m .msvc)).answers calls =
        ["msvc:foo", "msvc:typeinfo:Base", "msvc:bar"] := by
  intro tagged m other calls t
  obtain ⟨-, -, hreplaced, -⟩ := foreignLinkage_exclusive (.ilp32 .windows) m calls
  exact ⟨rfl, hreplaced other rfl, rfl⟩

end Target

end TargetAbi
