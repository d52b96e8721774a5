import TargetAbi.Proofs.Toml.Keys
import TargetAbi.Proofs.Toml.Lexeme

/-!
# Documents of simple lines

A document without headers, each line of which is blank, a comment or a field that is a string or a
boolean. Reading it gives the fields in their order, with either line end and whatever lines stand
between them (`Document.ofText?_text`). The lines give one statement for each field
(`statements?_join`), and the statements add one entry each (`Draft.foldlM_sets`).
-/

set_option autoImplicit false

namespace TargetAbi.Toml

/-- A line of a document without headers. -/
inductive Line where
  | blank (cs : List Char)
  /-- A comment, without the mark in front of it. -/
  | comment (cs : List Char)
  | field (f : Field)
  deriving DecidableEq, Repr

namespace Line

/-- The characters of a line without its end. -/
def chars : Line → List Char
  | blank cs => cs
  | comment cs => '#' :: cs
  | field f => f.1.toList ++ ' ' :: '=' :: ' ' :: f.2.chars

/-- The field on a line. -/
def field? : Line → Option Field
  | field f => some f
  | _ => none

/-- A blank line has blanks only, a comment has no controls, and a field is a string or a boolean
under an unquoted key. -/
inductive IsReadable : Line → Prop
  | blank {cs : List Char} : (∀ c ∈ cs, isBlank c = true) → IsReadable (blank cs)
  | comment {cs : List Char} : (∀ c ∈ cs, isPlain c = true) → IsReadable (comment cs)
  | field {f : Field} : f.1.toList ≠ [] → (∀ c ∈ f.1.toList, isBareKeyChar c = true) →
      f.2.IsBasic → IsReadable (field f)

end Line

/-- The fields on lines, in order. -/
def fieldsOf (lines : List Line) : List Field := lines.filterMap Line.field?

theorem perm_fieldsOf (front : List Line) (f : Field) (back : List Line) :
    (fieldsOf (front ++ .field f :: back)).Perm (f :: fieldsOf (front ++ back)) := by
  rw [fieldsOf, fieldsOf, List.filterMap_append, List.filterMap_append]
  exact List.perm_middle

/-- The characters of lines that end alike. -/
def LineEnd.join (e : LineEnd) (lines : List Line) : List Char :=
  lines.flatMap fun l => l.chars ++ e.chars

/-- The text of lines that end alike. -/
def LineEnd.text (e : LineEnd) (lines : List Line) : String := String.ofList (e.join lines)

variable {e : LineEnd} {lines : List Line} {f : Field} {rest : List Char}

/-! ## From lines to statements -/

/-- A statement that gives a field its value. -/
def Statement.Sets (s : Statement) (f : Field) : Prop :=
  ∃ keySpan span, s = .assign ⟨[], ⟨f.1, keySpan⟩, span, .scalar f.2⟩

/-- The line of a field starts with its key. -/
theorem Line.IsReadable.exists_cons (h : (Line.field f).IsReadable) :
    ∃ c cs, isBareKeyChar c = true ∧ (Line.field f).chars = c :: cs := by
  obtain - | - | ⟨hkey, hbare, -⟩ := h
  obtain ⟨c, cs, hcs⟩ := List.exists_cons_of_ne_nil hkey
  have hfirst := hbare c (hcs ▸ List.mem_cons_self)
  exact ⟨c, cs ++ ' ' :: '=' :: ' ' :: f.2.chars, hfirst, by rw [Line.chars, hcs, List.cons_append]⟩

theorem skipBlanks_chars {v : Scalar} (hv : v.IsBasic) (rest : List Char) :
    skipBlanks (' ' :: (v.chars ++ rest)) = v.chars ++ rest := by
  cases hv with
  | string s => rfl
  | boolean b =>
    cases b with
    | true => rfl
    | false => rfl

theorem readAssignment_field (h : (Line.field f).IsReadable) (size depth : Nat) (e : LineEnd)
    (rest : List Char) :
    ∃ keySpan span, readAssignment size (readValue size depth)
        ((Line.field f).chars ++ (e.chars ++ rest)) =
      some (⟨[], ⟨f.1, keySpan⟩, span, .scalar f.2⟩, e.chars ++ rest) := by
  obtain - | - | ⟨hkey, hbare, hvalue⟩ := h
  have hchars : (Line.field f).chars ++ (e.chars ++ rest) =
      f.1.toList ++ ' ' :: '=' :: ' ' :: (f.2.chars ++ (e.chars ++ rest)) := by
    simp [Line.chars]
  obtain ⟨keySpan, hreadKey⟩ :=
    readKey_bare hkey hbare size (' ' :: (f.2.chars ++ (e.chars ++ rest)))
  rw [String.ofList_toList] at hreadKey
  refine ⟨keySpan, ⟨size - (f.2.chars ++ (e.chars ++ rest)).length,
    size - (e.chars ++ rest).length⟩, ?_⟩
  rw [hchars, readAssignment, hreadKey]
  simp only [Option.bind_eq_bind, Option.bind_some, after?, if_true, skipBlanks_chars hvalue,
    readValue_chars hvalue, Option.pure_def]

/-- The statement on the line of a field. -/
theorem readStatement_field (h : (Line.field f).IsReadable) (size : Nat) (e : LineEnd)
    (rest : List Char) :
    ∃ s : Statement, s.Sets f ∧
      readStatement size ((Line.field f).chars ++ (e.chars ++ rest)) =
        some (s, e.chars ++ rest) := by
  obtain ⟨keySpan, span, hassign⟩ := readAssignment_field h size (nestingLimit - 1) e rest
  refine ⟨_, ⟨keySpan, span, rfl⟩, ?_⟩
  obtain ⟨c, cs, hfirst, hcs⟩ := h.exists_cons
  rw [hcs] at hassign ⊢
  -- the line is no header
  rw [List.cons_append, readStatement.eq_3 _ _ (fun r => cons_ne_of_isBareKeyChar hfirst rfl _ _)
    (cons_ne_of_isBareKeyChar hfirst rfl _), ← List.cons_append, hassign]
  rfl

theorem LineEnd.length_chars_pos (e : LineEnd) : 0 < e.chars.length := by
  cases e with
  | lf => exact Nat.zero_lt_succ 0
  | crlf => exact Nat.zero_lt_succ 1

theorem length_lt_of_line (l : Line) (e : LineEnd) (rest : List Char) :
    rest.length < (l.chars ++ (e.chars ++ rest)).length := by
  have hend := e.length_chars_pos
  rw [List.length_append, List.length_append]
  omega

theorem join_cons (e : LineEnd) (l : Line) (lines : List Line) :
    e.join (l :: lines) = l.chars ++ (e.chars ++ e.join lines) := by
  simp [LineEnd.join]

/-- A line without a field adds no statement. -/
theorem statements?_skip {l : Line} (h : endLine (l.chars ++ (e.chars ++ rest)) = some rest)
    (size : Nat) :
    statements? size (l.chars ++ (e.chars ++ rest)) = statements? size rest := by
  have hlength := length_lt_of_line l e rest
  have hne : l.chars ++ (e.chars ++ rest) ≠ [] := List.ne_nil_of_length_pos (by omega)
  rw [statements?, if_neg hne, h]
  exact if_pos hlength

/-- The line of a field adds the statement on it. -/
theorem statements?_field (h : (Line.field f).IsReadable) (size : Nat) (e : LineEnd)
    (rest : List Char) :
    ∃ s : Statement, s.Sets f ∧
      statements? size ((Line.field f).chars ++ (e.chars ++ rest)) =
        (statements? size rest).map (s :: ·) := by
  obtain ⟨s, hsets, hread⟩ := readStatement_field h size e rest
  refine ⟨s, hsets, ?_⟩
  have hlength := length_lt_of_line (.field f) e rest
  have hne : (Line.field f).chars ++ (e.chars ++ rest) ≠ [] :=
    List.ne_nil_of_length_pos (by omega)
  have hstart : endLine ((Line.field f).chars ++ (e.chars ++ rest)) = none ∧
      skipBlanks ((Line.field f).chars ++ (e.chars ++ rest)) =
        (Line.field f).chars ++ (e.chars ++ rest) := by
    obtain ⟨c, cs, hfirst, hcs⟩ := h.exists_cons
    rw [hcs]
    exact ⟨endLine_of_isBareKeyChar hfirst _, skipBlanks_of_isBareKeyChar hfirst _⟩
  rw [statements?, if_neg hne, hstart.1, hstart.2, hread]
  simp only [endLine_chars]
  rw [if_pos hlength]

/-- The lines have one statement for each field, which sets it. -/
theorem statements?_join (hlines : ∀ l ∈ lines, l.IsReadable) (size : Nat) :
    ∃ statements, statements? size (e.join lines) = some statements ∧
      List.Forall₂ Statement.Sets statements (fieldsOf lines) := by
  -- the size of the whole text stays the same while its lines are read
  induction lines with
  | nil =>
    refine ⟨[], ?_, .nil⟩
    rw [statements?]
    rfl
  | cons l lines ih =>
    obtain ⟨statements, hread, hsets⟩ := ih fun l hl => hlines l (List.mem_cons_of_mem _ hl)
    have hl := hlines l List.mem_cons_self
    rw [join_cons]
    cases l with
    | blank cs =>
      obtain hblank | - | - := hl
      rw [statements?_skip (l := .blank cs) (endLine_blanks hblank) size]
      exact ⟨statements, hread, hsets⟩
    | comment cs =>
      obtain - | hplain | - := hl
      rw [statements?_skip (l := .comment cs) (endLine_comment hplain) size]
      exact ⟨statements, hread, hsets⟩
    | field f =>
      obtain ⟨s, hs, hfield⟩ := statements?_field hl size e (e.join lines)
      refine ⟨s :: statements, ?_, .cons hs hsets⟩
      rw [hfield, hread]
      rfl

/-! ## From statements to the document -/

namespace Entries

variable {es : Entries} {fs : List Field}

/-- The entries are scalars, those of the fields in their order. -/
def AreFields (es : Entries) (fs : List Field) : Prop :=
  es.map (fun entry => (entry.1, entry.2.2)) = fs.map fun f => (f.1, Node.scalar f.2)

theorem AreFields.keys_eq (h : es.AreFields fs) : es.keys = fs.map Prod.fst := by
  have hfst := congrArg (List.map Prod.fst) h
  rw [List.map_map, List.map_map] at hfst
  exact hfst

theorem AreFields.has_of_mem (h : es.AreFields fs) (hkeys : (fs.map Prod.fst).Nodup) {name : String}
    {value : Scalar} (hmem : (name, value) ∈ fs) : es.Has name value := by
  have hentry : (name, Node.scalar value) ∈ es.map fun entry => (entry.1, entry.2.2) := by
    rw [h]
    exact List.mem_map_of_mem hmem
  obtain ⟨⟨k, span, node⟩, hes, heq⟩ := List.mem_map.1 hentry
  cases heq
  rw [← h.keys_eq] at hkeys
  exact ⟨span, find?_eq_some_of_mem hkeys hes⟩

/-- A new key without dots goes to the end. -/
theorem assign_of_find?_eq_none {k : Key} (h : es.find? k.name = none) (span : Span)
    (v : Node) : es.assign ⟨[], k, span, v⟩ = some (es ++ [(k.name, span, v)]) := by
  show (if (Origin.header = .dotted ↔ ([] : List Key) ≠ []) then
    es.add? k.name span v else none) = _
  rw [if_pos (by decide), add?, h]

end Entries

/-- Nothing but the fields `fs` has been read. -/
structure Draft.HasFields (d : Draft) (fs : List Field) : Prop where
  current : d.current = []
  entries : d.document.entries.AreFields fs

namespace Draft

variable {d : Draft} {fs : List Field} {s : Statement}

/-- A field with a new key is added at the end. -/
theorem step_sets (hd : d.HasFields fs) (hs : s.Sets f) (hnew : f.1 ∉ fs.map Prod.fst) :
    ∃ d', d.step s = some d' ∧ d'.HasFields (fs ++ [f]) := by
  obtain ⟨⟨es, rootStop⟩, current⟩ := d
  obtain ⟨rfl, hes⟩ := hd
  obtain ⟨keySpan, span, rfl⟩ := hs
  have hfind : es.find? f.1 = none := by
    rw [Entries.find?_eq_none_iff, hes.keys_eq]
    exact hnew
  refine ⟨⟨⟨es ++ [(f.1, span, .scalar f.2)], span.stop⟩, []⟩, ?_, rfl, ?_⟩
  · have hassign := Entries.assign_of_find?_eq_none (k := ⟨f.1, keySpan⟩) hfind span (.scalar f.2)
    show ((es.assign ⟨[], ⟨f.1, keySpan⟩, span, .scalar f.2⟩).map _ : Option Draft) = _
    rw [hassign]
    rfl
  · show Entries.AreFields (es ++ [(f.1, span, .scalar f.2)]) (fs ++ [f])
    rw [Entries.AreFields, List.map_append, List.map_append, hes]
    rfl

/-- Fields with distinct keys are added one after the other. -/
theorem foldlM_sets {statements : List Statement} {more : List Field}
    (hs : List.Forall₂ Statement.Sets statements more) (hd : d.HasFields fs)
    (hkeys : ((fs ++ more).map Prod.fst).Nodup) :
    ∃ d', statements.foldlM step d = some d' ∧ d'.HasFields (fs ++ more) := by
  -- the fields read so far grow from statement to statement
  induction hs generalizing d fs with
  | nil => exact ⟨d, rfl, by rwa [List.append_nil]⟩
  | @cons s f statements more hsets _ ih =>
    have hnew : f.1 ∉ fs.map Prod.fst := by
      rw [List.map_append, List.nodup_append] at hkeys
      intro hmem
      exact hkeys.2.2 f.1 hmem f.1 List.mem_cons_self rfl
    obtain ⟨next, hstep, hnext⟩ := step_sets hd hsets hnew
    rw [List.append_cons fs f more] at hkeys ⊢
    obtain ⟨d', hrest, hd'⟩ := ih hnext hkeys
    refine ⟨d', ?_, hd'⟩
    rw [List.foldlM_cons, hstep]
    exact hrest

end Draft

/-! ## Whole texts -/

/-- No line starts with a byte order mark. -/
theorem head?_join (hlines : ∀ l ∈ lines, l.IsReadable) : (e.join lines).head? ≠ some '\ufeff' := by
  cases lines with
  | nil => simp [LineEnd.join]
  | cons l lines =>
    rw [join_cons]
    intro hhead
    cases hlines l List.mem_cons_self with
    | @blank cs hblank =>
      cases cs with
      | nil =>
        cases e with
        | lf => exact absurd hhead (by simp [Line.chars, LineEnd.chars])
        | crlf => exact absurd hhead (by simp [Line.chars, LineEnd.chars])
      | cons c cs =>
        obtain rfl : c = '\ufeff' := Option.some.inj hhead
        exact absurd (hblank _ List.mem_cons_self) (by decide)
    | comment _ => cases hhead
    | @field f hkey hbare hvalue =>
      obtain ⟨c, cs, hfirst, hcs⟩ := (Line.IsReadable.field hkey hbare hvalue).exists_cons
      rw [hcs] at hhead
      obtain rfl : c = '\ufeff' := Option.some.inj hhead
      exact absurd hfirst (by decide)

theorem skipMark_eq_self {cs : List Char} (h : cs.head? ≠ some '\ufeff') : skipMark cs = cs := by
  cases cs with
  | nil => rfl
  | cons c cs =>
    rw [skipMark.eq_2]
    rintro r heq
    cases heq
    exact h rfl

/-- The document of a text is made up of the fields on its lines. -/
theorem Document.ofText?_text (hlines : ∀ l ∈ lines, l.IsReadable)
    (hkeys : ((fieldsOf lines).map Prod.fst).Nodup) (e : LineEnd) :
    ∃ d, Document.ofText? (e.text lines) = some d ∧ d.entries.AreFields (fieldsOf lines) := by
  obtain ⟨statements, hread, hsets⟩ := statements?_join (e := e) hlines (e.text lines).length
  have hempty : Draft.empty.HasFields [] := ⟨rfl, rfl⟩
  obtain ⟨d, hrun, hd⟩ := Draft.foldlM_sets hsets hempty hkeys
  have hstatements : Statement.ofText? (e.text lines) = some statements := by
    rw [Statement.ofText?, LineEnd.text, String.toList_ofList, skipMark_eq_self (head?_join hlines)]
    exact hread
  refine ⟨d.document, ?_, hd.entries⟩
  rw [Document.ofText?, hstatements]
  show (statements.foldlM Draft.step Draft.empty).map Draft.document = some d.document
  rw [hrun]
  rfl

end TargetAbi.Toml
