import TargetAbi.Proofs.Command.Steps
import TargetAbi.Proofs.Constant.Text
import TargetAbi.Proofs.Literal.HexBits
import TargetAbi.Proofs.Printing

/-!
# The paint command

Every way in which a paint command can end (`PaintOutcome`): with the first of its four errors and
no output, or with two lines. The arguments and the byte order decide between them, and nothing else
does (`runOn_paint_eq_iff`).
-/

set_option autoImplicit false

namespace TargetAbi

open Text

/-! ## Outcomes -/

/-- The two lines for a literal of the type `s` that is reinterpreted as the type `t`. -/
def paintedLines (s t : BasicType) (c painted : Constant) : List String :=
  [c.text ++ " (" ++ s.name ++ ") -> " ++ painted.text ++ " (" ++ t.name ++ ")",
    "bits: " ++ painted.hexBits]

/-- How a paint command ends: with the first thing that is wrong with its arguments and no output,
or with two lines and no error. -/
inductive PaintOutcome (order : ByteOrder) (value source target : String) : Outcome → Prop
  | unknownSource : (∀ s : BasicType, ¬ s.IsNamed source) →
      PaintOutcome order value source target ⟨"", some (.unknownType ⟨.type, source⟩)⟩
  | unknownTarget {s : BasicType} : s.IsNamed source → (∀ t : BasicType, ¬ t.IsNamed target) →
      PaintOutcome order value source target ⟨"", some (.unknownType ⟨.type, target⟩)⟩
  | badLiteral {s t : BasicType} {cause : LiteralError} : s.IsNamed source → t.IsNamed target →
      Constant.read value s = .error cause →
      PaintOutcome order value source target ⟨"", some (.literal cause)⟩
  | refused {s t : BasicType} {c : Constant} {cause : ReinterpretError} :
      s.IsNamed source → t.IsNamed target → Constant.read value s = .ok c →
      c.reinterpret order t = .error cause →
      PaintOutcome order value source target ⟨"", some (.reinterpret cause)⟩
  | painted {s t : BasicType} {c d : Constant} {stdout : String} :
      s.IsNamed source → t.IsNamed target → Constant.read value s = .ok c →
      c.reinterpret order t = .ok d → HasLines stdout (paintedLines s t c d) →
      PaintOutcome order value source target ⟨stdout, none⟩

/-- Neither of the two lines contains a line feed. -/
theorem isLine_of_mem_paintedLines {s t : BasicType} {c d : Constant} :
    ∀ line ∈ paintedLines s t c d, IsLine line := by
  intro line hline
  simp only [paintedLines, List.mem_cons, List.not_mem_nil, or_false] at hline
  rcases hline with rfl | rfl
  · simp only [isLine_append, c.isLine_text, d.isLine_text, s.isLine_name, t.isLine_name, true_and,
      and_true]
    decide
  · have hbits : IsLine d.hexBits := isLine_of_isVisible d.isVisible_of_mem_hexBits
    simp only [isLine_append, hbits, and_true]
    decide

/-- A basic type that no constant has is not one to read a literal of. -/
theorem Constant.read_of_not_mem_types {t : BasicType} (ht : t ∉ Constant.types) (value : String) :
    Constant.read value t = .error (.noLiterals t) := by
  cases t
  case int32 | uns32 | int64 | uns64 | float32 | float64 => exact absurd (by decide) ht
  all_goals rfl

namespace Command

variable {order : ByteOrder} {files : FileSystem} {value source target : String} {o : Outcome}
  {s t : BasicType} {c d : Constant}

/-! ## The command at its first failing step -/

theorem printPainted_of_unknownSource (hs : ∀ s : BasicType, ¬ s.IsNamed source) :
    printPainted order value source target = .fail (.unknownType ⟨.type, source⟩) := by
  have hs := readType_eq_error_iff.2 ⟨hs, rfl⟩
  simp [printPainted, hs]

theorem printPainted_of_unknownTarget (hs : s.IsNamed source)
    (ht : ∀ t : BasicType, ¬ t.IsNamed target) :
    printPainted order value source target = .fail (.unknownType ⟨.type, target⟩) := by
  have hs := readType_eq_ok_iff.2 hs
  have ht := readType_eq_error_iff.2 ⟨ht, rfl⟩
  simp [printPainted, hs, ht]

theorem printPainted_of_badLiteral {cause : LiteralError} (hs : s.IsNamed source)
    (ht : t.IsNamed target) (hc : Constant.read value s = .error cause) :
    printPainted order value source target = .fail (.literal cause) := by
  have hs := readType_eq_ok_iff.2 hs
  have ht := readType_eq_ok_iff.2 ht
  have hc := readLiteral_eq_error_iff.2 ⟨cause, hc, rfl⟩
  simp [printPainted, hs, ht, hc]

theorem printPainted_of_refused {cause : ReinterpretError} (hs : s.IsNamed source)
    (ht : t.IsNamed target) (hc : Constant.read value s = .ok c)
    (hd : c.reinterpret order t = .error cause) :
    printPainted order value source target = .fail (.reinterpret cause) := by
  have hs := readType_eq_ok_iff.2 hs
  have ht := readType_eq_ok_iff.2 ht
  have hc := readLiteral_eq_ok_iff.2 hc
  have hd := reinterpret_eq_error_iff.2 ⟨cause, hd, rfl⟩
  simp [printPainted, hs, ht, hc, hd]

/-- None of the four steps fails, and both lines are printed after the last of them. -/
theorem printPainted_of_ok (hs : s.IsNamed source) (ht : t.IsNamed target)
    (hc : Constant.read value s = .ok c) (hd : c.reinterpret order t = .ok d) :
    printPainted order value source target =
      ⟨unlines (paintedLines s t c d), [paintedRecord c d t], .ok ()⟩ := by
  have hs := readType_eq_ok_iff.2 hs
  have ht := readType_eq_ok_iff.2 ht
  have hc := readLiteral_eq_ok_iff.2 hc
  have hd := reinterpret_eq_ok_iff.2 hd
  simp only [printPainted, hs, ht, hc, hd, Printing.liftM_eq, Printing.ofExcept_ok_bind,
    Printing.log_bind]
  rw [Printing.printLine, Printing.print_bind, paintedLines, unlines_cons, unlines_cons,
    unlines_nil, String.append_empty]
  rfl

/-! ## The outcome -/

theorem runOn_paint (order : ByteOrder) (files : FileSystem) (value source target : String) :
    (paint value source target).runOn order files =
      .ofPrinting (printPainted order value source target) := rfl

/-- Every run ends in one of the five ways. -/
theorem paintOutcome_runOn (order : ByteOrder) (files : FileSystem)
    (value source target : String) :
    PaintOutcome order value source target ((paint value source target).runOn order files) := by
  rw [runOn_paint]
  -- the steps in the order in which they are taken; the first one that fails decides
  by_cases hs : ∃ s : BasicType, s.IsNamed source
  swap
  · rw [not_exists] at hs
    rw [printPainted_of_unknownSource hs]
    exact .unknownSource hs
  obtain ⟨s, hs⟩ := hs
  by_cases ht : ∃ t : BasicType, t.IsNamed target
  swap
  · rw [not_exists] at ht
    rw [printPainted_of_unknownTarget hs ht]
    exact .unknownTarget hs ht
  obtain ⟨t, ht⟩ := ht
  cases hc : Constant.read value s with
  | error cause =>
    rw [printPainted_of_badLiteral hs ht hc]
    exact .badLiteral hs ht hc
  | ok c =>
    cases hd : c.reinterpret order t with
    | error cause =>
      rw [printPainted_of_refused hs ht hc hd]
      exact .refused hs ht hc hd
    | ok d =>
      rw [printPainted_of_ok hs ht hc hd]
      exact .painted hs ht hc hd ⟨rfl, isLine_of_mem_paintedLines⟩

/-- The five ways to end exclude each other: each of them decides the run. -/
theorem runOn_of_paintOutcome (h : PaintOutcome order value source target o) :
    (paint value source target).runOn order files = o := by
  rw [runOn_paint]
  cases h with
  | unknownSource hs =>
    rw [printPainted_of_unknownSource hs]
    rfl
  | unknownTarget hs ht =>
    rw [printPainted_of_unknownTarget hs ht]
    rfl
  | badLiteral hs ht hc =>
    rw [printPainted_of_badLiteral hs ht hc]
    rfl
  | refused hs ht hc hd =>
    rw [printPainted_of_refused hs ht hc hd]
    rfl
  | painted hs ht hc hd hlines =>
    rw [printPainted_of_ok hs ht hc hd, hlines.1]
    rfl

/-- A run that fails neither prints nor logs. -/
theorem printPainted_of_error {e : CommandError}
    (h : ((paint value source target).runOn order files).error = some e) :
    printPainted order value source target = .fail e := by
  have hend := paintOutcome_runOn order files value source target
  -- the outcome has to be a variable for the cases
  generalize (paint value source target).runOn order files = o at h hend
  cases hend with
  | unknownSource hs =>
    cases h
    exact printPainted_of_unknownSource hs
  | unknownTarget hs ht =>
    cases h
    exact printPainted_of_unknownTarget hs ht
  | badLiteral hs ht hc =>
    cases h
    exact printPainted_of_badLiteral hs ht hc
  | refused hs ht hc hd =>
    cases h
    exact printPainted_of_refused hs ht hc hd
  | painted => cases h

theorem error_runOn_paint_eq_none_iff (order : ByteOrder) (files : FileSystem)
    (value source target : String) :
    ((paint value source target).runOn order files).error = none ↔
      ∃ s t : BasicType, s.IsNamed source ∧ t.IsNamed target ∧
        ∃ c d, Constant.read value s = .ok c ∧ c.reinterpret order t = .ok d := by
  constructor
  · intro hnone
    have hend := paintOutcome_runOn order files value source target
    generalize (paint value source target).runOn order files = o at hnone hend
    cases hend with
    | painted hs ht hc hd _ => exact ⟨_, _, hs, ht, _, _, hc, hd⟩
    | unknownSource | unknownTarget | badLiteral | refused => cases hnone
  · rintro ⟨s, t, hs, ht, c, d, hc, hd⟩
    rw [runOn_paint, printPainted_of_ok hs ht hc hd]
    rfl

/-- A paint command prints both lines or nothing. -/
theorem stdout_runOn_paint_of_error (order : ByteOrder) (files : FileSystem)
    (value source target : String)
    (herror : ((paint value source target).runOn order files).error ≠ none) :
    ((paint value source target).runOn order files).stdout = "" := by
  have hend := paintOutcome_runOn order files value source target
  generalize (paint value source target).runOn order files = o at herror hend
  cases hend with
  | painted => exact absurd rfl herror
  | unknownSource | unknownTarget | badLiteral | refused => rfl

/-- What a paint command does. It fails with the first thing that is wrong: the name of the source
type, the name of the target type, the literal, which no type without constants has, or the
reinterpretation; and then it prints nothing. Otherwise it prints two lines, with the keywords of
the types and the bits of the new constant. On a machine that stores the least significant byte
first these are the bits of the literal. -/
theorem runOn_paint_eq_iff (order : ByteOrder) (files : FileSystem)
    (value source target : String) :
    (∀ o, (paint value source target).runOn order files = o ↔
      PaintOutcome order value source target o) ∧
    (((paint value source target).runOn order files).error ≠ none →
      ((paint value source target).runOn order files).stdout = "") ∧
    (((paint value source target).runOn order files).error = none ↔
      ∃ s t : BasicType, s.IsNamed source ∧ t.IsNamed target ∧
        ∃ c d, Constant.read value s = .ok c ∧ c.reinterpret order t = .ok d) ∧
    (∀ s, s ∉ Constant.types → Constant.read value s = .error (.noLiterals s)) ∧
    ∀ (c d : Constant) (t : BasicType), c.reinterpret order t = .ok d →
      IsPaddedHex d.hexBits (2 * d.size.toNat) d.lowBits.toNat ∧
        (order = .leastFirst → d.hexBits = c.hexBits) := by
  refine ⟨?_, stdout_runOn_paint_of_error order files value source target,
    error_runOn_paint_eq_none_iff order files value source target, ?_, ?_⟩
  · intro o
    constructor
    · rintro rfl
      exact paintOutcome_runOn order files value source target
    · exact runOn_of_paintOutcome
  · intro s hs
    exact Constant.read_of_not_mem_types hs value
  · intro c d t hd
    refine ⟨d.isPaddedHex_hexBits, ?_⟩
    rintro rfl
    exact Constant.hexBits_of_reinterpret_leastFirst hd

example (files : FileSystem) :
    (paint "-1" "i32" "u32").run files =
      ⟨"-1 (int32) -> 4294967295 (uns32)\nbits: 0xFFFFFFFF\n", none⟩ := rfl

end Command

end TargetAbi
