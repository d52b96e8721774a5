import TargetAbi.Proofs.Constant.Constructible

/-!
# Runs of reinterpretations

A run reinterprets a constant as one type after another; a step that fails leaves the constant as it
is. No step changes the image of the constant, and what a step does is decided by the image alone
(`reinterpret_eq_ok_congr`). So a run may take any path: which steps succeed does not depend on the
steps before them, the last one that succeeds decides the result, and a run that ends in the type in
which it began ends in the constant with which it began (`reinterpretAll_path_independent`).
-/

set_option autoImplicit false

namespace TargetAbi.Constant

variable (order : ByteOrder)

/-- One step of a run: a constant that cannot be reinterpreted stays as it is. -/
def reinterpretOrKeep (c : Constant) (t : BasicType) : Constant :=
  match c.reinterpret order t with
  | .ok d => d
  | .error _ => c

/-- The constant at the end of a run over the types `ts`. -/
def reinterpretAll (c : Constant) (ts : List BasicType) : Constant :=
  ts.foldl (reinterpretOrKeep order) c

/-- The step with the index `i` of a run over the types `ts` succeeds. -/
def StepSucceeds (c : Constant) (ts : List BasicType) (i : Nat) : Prop :=
  ∃ t d, ts[i]? = some t ∧ (c.reinterpretAll order (ts.take i)).reinterpret order t = .ok d

/-! ## One step -/

variable {order}

theorem size_eq_of_image_eq {c d : Constant} (h : c.image order = d.image order) :
    c.size = d.size := by
  have hlength := congrArg List.length h
  rw [length_image, length_image] at hlength
  exact UInt32.toNat_inj.mp hlength

/-- Constants with the same image are reinterpreted alike. -/
theorem reinterpret_eq_ok_congr {c d : Constant} (h : c.image order = d.image order)
    (e : Constant) (t : BasicType) :
    c.reinterpret order t = .ok e ↔ d.reinterpret order t = .ok e := by
  rw [reinterpret_eq_ok_iff, reinterpret_eq_ok_iff, size_eq_of_image_eq h, h]

/-- A normal constant reinterpreted as its own type is itself. -/
theorem reinterpret_type_self (order : ByteOrder) {c : Constant} (hc : c.IsNormal) :
    c.reinterpret order c.type = .ok c :=
  (reinterpret_eq_ok_iff order c c c.type).2
    ⟨type_mem_types c, naturalSize_type c, rfl, hc, rfl⟩

theorem image_reinterpretOrKeep (c : Constant) (t : BasicType) :
    (c.reinterpretOrKeep order t).image order = c.image order := by
  unfold reinterpretOrKeep
  cases h : c.reinterpret order t with
  | ok d => exact image_of_reinterpret h
  | error e => rfl

theorem isNormal_reinterpretOrKeep {c : Constant} (hc : c.IsNormal) (t : BasicType) :
    (c.reinterpretOrKeep order t).IsNormal := by
  unfold reinterpretOrKeep
  cases h : c.reinterpret order t with
  | ok d => exact isNormal_of_reinterpret h
  | error e => exact hc

/-! ## Whole runs -/

variable (order)

/-- A run splits at each of its steps. -/
theorem reinterpretAll_split (c : Constant) {ts : List BasicType} {i : Nat} {t : BasicType}
    (ht : ts[i]? = some t) :
    c.reinterpretAll order ts =
      ((c.reinterpretAll order (ts.take i)).reinterpretOrKeep order t).reinterpretAll order
        (ts.drop (i + 1)) := by
  obtain ⟨hlt, rfl⟩ := List.getElem?_eq_some_iff.1 ht
  have hsplit : ts = ts.take i ++ ts[i] :: ts.drop (i + 1) := by
    rw [← List.drop_eq_getElem_cons hlt, List.take_append_drop]
  calc c.reinterpretAll order ts
      = c.reinterpretAll order (ts.take i ++ ts[i] :: ts.drop (i + 1)) := by rw [← hsplit]
    _ = _ := by rw [reinterpretAll, List.foldl_append]; rfl

/-- The invariant of a run: the image stays as it is. -/
theorem image_reinterpretAll (c : Constant) (ts : List BasicType) :
    (c.reinterpretAll order ts).image order = c.image order := by
  -- by induction on the types that are left, from the constant that the steps before have reached
  induction ts generalizing c with
  | nil => rfl
  | cons t ts ih => exact (ih (c.reinterpretOrKeep order t)).trans (image_reinterpretOrKeep c t)

theorem isNormal_reinterpretAll {c : Constant} (hc : c.IsNormal) (ts : List BasicType) :
    (c.reinterpretAll order ts).IsNormal := by
  induction ts generalizing c with
  | nil => exact hc
  | cons t ts ih => exact ih (isNormal_reinterpretOrKeep hc t)

variable {order}

/-- A step succeeds in the middle of a run exactly when it succeeds at its start. -/
theorem stepSucceeds_iff (c : Constant) {ts : List BasicType} {i : Nat} {t : BasicType}
    (ht : ts[i]? = some t) :
    StepSucceeds order c ts i ↔ ∃ d, c.reinterpret order t = .ok d := by
  have himage := image_reinterpretAll order c (ts.take i)
  constructor
  · rintro ⟨u, d, hu, hd⟩
    rw [ht, Option.some.injEq] at hu
    subst hu
    exact ⟨d, (reinterpret_eq_ok_congr himage d t).1 hd⟩
  · rintro ⟨d, hd⟩
    exact ⟨t, d, ht, (reinterpret_eq_ok_congr himage d t).2 hd⟩

theorem reinterpretAll_eq_self {c : Constant} {ts : List BasicType}
    (h : ∀ t ∈ ts, ¬ ∃ d, c.reinterpret order t = .ok d) : c.reinterpretAll order ts = c := by
  induction ts with
  | nil => rfl
  | cons t ts ih =>
    have hstep : c.reinterpretOrKeep order t = c := by
      unfold reinterpretOrKeep
      cases ht : c.reinterpret order t with
      | ok d => exact absurd ⟨d, ht⟩ (h t List.mem_cons_self)
      | error e => rfl
    show (c.reinterpretOrKeep order t).reinterpretAll order ts = c
    rw [hstep]
    exact ih fun u hu => h u (List.mem_cons_of_mem t hu)

/-- A run is decided by its last step that succeeds. -/
theorem reinterpret_eq_ok_reinterpretAll {c : Constant} {ts : List BasicType} {i : Nat}
    {t : BasicType} (ht : ts[i]? = some t) (hi : StepSucceeds order c ts i)
    (hlast : ∀ j, i < j → ¬ StepSucceeds order c ts j) :
    c.reinterpret order t = .ok (c.reinterpretAll order ts) := by
  obtain ⟨d, hd⟩ := (stepSucceeds_iff c ht).1 hi
  have himage := image_of_reinterpret hd
  -- the steps after `i` fail at `d`, because they fail in the run
  have hrest : d.reinterpretAll order (ts.drop (i + 1)) = d := by
    apply reinterpretAll_eq_self
    rintro u hu ⟨e, he⟩
    obtain ⟨k, hk⟩ := List.mem_iff_getElem?.1 hu
    rw [List.getElem?_drop] at hk
    refine hlast (i + 1 + k) (by omega) ((stepSucceeds_iff c hk).2 ⟨e, ?_⟩)
    exact (reinterpret_eq_ok_congr himage e u).1 he
  have hbefore := image_reinterpretAll order c (ts.take i)
  have hstep : (c.reinterpretAll order (ts.take i)).reinterpretOrKeep order t = d := by
    unfold reinterpretOrKeep
    rw [(reinterpret_eq_ok_congr hbefore d t).2 hd]
  rw [reinterpretAll_split order c ht, hstep, hrest, hd]

/-- Path independence: which steps of a run succeed, and with which result the run ends, does not
depend on the path. Reading a constant as its own type changes nothing, and going to another type of
its size and back gives the constant again. -/
theorem reinterpretAll_path_independent (order : ByteOrder) {c : Constant} (hc : Constructible c)
    (ts : List BasicType) :
    (∀ i t, ts[i]? = some t →
        (StepSucceeds order c ts i ↔ ∃ d, c.reinterpret order t = .ok d)) ∧
      ((∀ i, ¬ StepSucceeds order c ts i) → c.reinterpretAll order ts = c) ∧
      (∀ i t, ts[i]? = some t → StepSucceeds order c ts i →
        (∀ j, i < j → ¬ StepSucceeds order c ts j) →
          c.reinterpret order t = .ok (c.reinterpretAll order ts)) ∧
      ((c.reinterpretAll order ts).type = c.type → c.reinterpretAll order ts = c) ∧
      c.reinterpret order c.type = .ok c ∧
      ∀ t ∈ types, t.naturalSize = some c.size →
        ∃ d, c.reinterpret order t = .ok d ∧ d.type = t ∧ d.reinterpret order c.type = .ok c := by
  have hnormal := hc.isNormal
  have hself := reinterpret_type_self order hnormal
  refine ⟨fun i t ht => stepSucceeds_iff c ht, ?_, fun i t ht hi hlast => ?_, ?_, hself, ?_⟩
  · intro hnone
    apply reinterpretAll_eq_self
    intro t ht hd
    obtain ⟨i, hi⟩ := List.mem_iff_getElem?.1 ht
    exact hnone i ((stepSucceeds_iff c hi).2 hd)
  · exact reinterpret_eq_ok_reinterpretAll ht hi hlast
  · intro htype
    exact eq_of_image order (isNormal_reinterpretAll order hnormal ts) hnormal htype
      (image_reinterpretAll order c ts)
  · intro t ht hsize
    obtain ⟨d, hd, htype, -, himage⟩ := exists_reinterpret order c ht hsize
    exact ⟨d, hd, htype, (reinterpret_eq_ok_congr himage c c.type).2 hself⟩

/-- A negative integer that goes through a float and through an unsigned integer comes back with its
sign; the step to eight bytes fails. -/
theorem reinterpretAll_path_independent_minus_one :
    Constructible (.int32 (-1)) ∧
      (Constant.int32 (-1)).reinterpretAll .leastFirst [.float32, .int64, .uns32, .int32] =
        .int32 (-1) :=
  ⟨.int32 (-1), (reinterpretAll_path_independent .leastFirst (.int32 (-1))
    [.float32, .int64, .uns32, .int32]).2.2.2.1 rfl⟩

end TargetAbi.Constant
