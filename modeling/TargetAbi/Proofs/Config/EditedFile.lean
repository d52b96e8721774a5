import TargetAbi.Proofs.Config.Decoding
import TargetAbi.Proofs.Platform
import TargetAbi.Proofs.Toml.Lines

/-!
# Edited configuration files

The file that is written for a configuration has three lines. It may be edited: its lines may change
places, the family may go by another of its names, and blank lines, comments and further flags may
stand between them (`Config.IsEdit`). Every such file is read as the configuration, with either line
end, and none of the three lines may be left out (`ofToml_text_of_isEdit`).
-/

set_option autoImplicit false

namespace TargetAbi

open Toml (Document Entries Field Line LineEnd Node Scalar Section Span escapeChar fieldsOf
  isBareKeyChar)

namespace Config

variable {c : Config} {lines : List Line} {d : Document} {e : LineEnd}

/-- The fields of a configuration that calls its family `name`. -/
def fieldsNaming (c : Config) (name : String) : List Field :=
  [("os", .string name), ("is-64bit", .boolean c.is64bit), ("is-lp64", .boolean c.isLp64)]

/-- Lines that are an edit of the file of `c`. Their fields are those of the file in any order, with
any name of the family, and booleans under other keys; no key stands twice. -/
structure IsEdit (c : Config) (lines : List Line) : Prop where
  readable : ∀ l ∈ lines, l.IsReadable
  fields : ∃ name flags, OsFamily.ofName? name = some c.os ∧
    (∀ f ∈ flags, ∃ b, f.2 = Scalar.boolean b) ∧
    (fieldsOf lines).Perm (c.fieldsNaming name ++ flags)
  distinct : ((fieldsOf lines).map Prod.fst).Nodup

/-! ## The file as it is written -/

theorem chars_section_eq_join (fields : List Field) :
    Section.chars ⟨[], fields⟩ = LineEnd.lf.join (fields.map .field) := by
  rw [LineEnd.join, List.flatMap_map]
  rfl

theorem toToml_eq_text (c : Config) : c.toToml = LineEnd.lf.text (c.tomlFields.map .field) := by
  rw [LineEnd.text, ← chars_section_eq_join]
  simp [toToml, Toml.print, List.intercalate]

theorem isReadable_of_key_mem {f : Field} (hkey : f.1 ∈ ["os", "is-64bit", "is-lp64"])
    (hvalue : f.2.IsBasic) : (Line.field f).IsReadable := by
  have hne : ∀ key ∈ ["os", "is-64bit", "is-lp64"], key.toList ≠ [] := by decide
  have hbare : ∀ key ∈ ["os", "is-64bit", "is-lp64"], key.toList.all isBareKeyChar = true := by
    decide
  exact .field (hne f.1 hkey) (List.all_eq_true.1 (hbare f.1 hkey)) hvalue

theorem isEdit_tomlFields (c : Config) : c.IsEdit (c.tomlFields.map .field) where
  readable := by
    intro l hl
    obtain ⟨f, hf, rfl⟩ := List.mem_map.1 hl
    simp only [tomlFields, List.mem_cons, List.not_mem_nil, or_false] at hf
    rcases hf with rfl | rfl | rfl
    · exact isReadable_of_key_mem (by simp) (.string _)
    · exact isReadable_of_key_mem (by simp) (.boolean _)
    · exact isReadable_of_key_mem (by simp) (.boolean _)
  fields := by
    refine ⟨c.os.tag, [], ?_, ?_, .refl _⟩
    · rw [OsFamily.tag_eq_name]
      exact c.os.ofName?_name
    · simp
  distinct := by
    show ["os", "is-64bit", "is-lp64"].Nodup
    decide

/-- A name of the family stands between the quotation marks as it is. -/
theorem chars_osLine {name : String} {os : OsFamily} (h : OsFamily.ofName? name = some os) :
    (Line.field ("os", .string name)).chars = "os = \"".toList ++ name.toList ++ ['"'] := by
  have hescape : name.toList.flatMap escapeChar = name.toList :=
    Toml.flatMap_escapeChar_of_isAlphanum fun _ => OsFamily.isAlphanum_of_ofName? h
  rw [Line.chars, Scalar.chars, hescape]
  simp

/-! ## Reading an edit -/

theorem IsEdit.describes (h : c.IsEdit lines) (hd : d.entries.AreFields (fieldsOf lines)) :
    d.entries.Describes c := by
  obtain ⟨name, flags, hname, -, hperm⟩ := h.fields
  have hhas (key : String) (v : Scalar) (hmem : (key, v) ∈ c.fieldsNaming name) :
      d.entries.Has key v :=
    hd.has_of_mem h.distinct (hperm.mem_iff.2 (List.mem_append_left flags hmem))
  exact ⟨⟨name, hhas _ _ (by simp [fieldsNaming]), OsFamily.parse_eq_ok_iff.2 hname⟩,
    hhas _ _ (by simp [fieldsNaming]), hhas _ _ (by simp [fieldsNaming])⟩

theorem IsEdit.ofToml_text (h : c.IsEdit lines) (e : LineEnd) : ofToml (e.text lines) = .ok c := by
  obtain ⟨d, hread, hd⟩ := Document.ofText?_text h.readable h.distinct e
  rw [ofToml_of_ofText? hread, mapError_eq_ok_iff,
    ofDocument_eq_ok_iff (Document.nodup_keys_ofText? hread)]
  exact h.describes hd

/-- Reading undoes writing. -/
theorem ofToml_toToml (c : Config) : ofToml c.toToml = .ok c := by
  rw [toToml_eq_text]
  exact (isEdit_tomlFields c).ofToml_text .lf

/-! ## Leaving out a line -/

theorem checkEntries_of_areFields {fs : List Field} (hd : d.entries.AreFields fs)
    (h : ∀ f ∈ fs, checkEntry f.1 (.scalar f.2) = .ok ()) : checkEntries d.entries = .ok () := by
  rw [checkEntries_eq_ok_iff]
  rintro ⟨key, span, v⟩ hmem
  have hentry := List.mem_map_of_mem (f := fun entry => (entry.1, entry.2.2)) hmem
  rw [hd] at hentry
  obtain ⟨f, hf, heq⟩ := List.mem_map.1 hentry
  cases heq
  exact h f hf

theorem IsEdit.checkEntry_eq_ok (h : c.IsEdit lines) {f : Field} (hf : f ∈ fieldsOf lines) :
    checkEntry f.1 (.scalar f.2) = .ok () := by
  -- the fields are accepted in the document of the whole edit, and a field is checked alone
  obtain ⟨d, hread, hd⟩ := Document.ofText?_text h.readable h.distinct .lf
  have hcheck := checkEntries_of_describes (Document.nodup_keys_ofText? hread) (h.describes hd)
  obtain ⟨span, hfind⟩ := hd.has_of_mem h.distinct hf
  exact checkEntries_eq_ok_iff.1 hcheck _ (mem_of_lookup_eq_some hfind)

section Without

variable {front back : List Line} {f : Field}

theorem IsEdit.readable_without (h : c.IsEdit (front ++ .field f :: back)) :
    ∀ l ∈ front ++ back, l.IsReadable := by
  intro l hl
  apply h.readable
  rw [List.mem_append, List.mem_cons]
  exact (List.mem_append.1 hl).imp_right Or.inr

/-- The key of a line stands on no other line. -/
theorem IsEdit.distinct_without (h : c.IsEdit (front ++ .field f :: back)) :
    f.1 ∉ (fieldsOf (front ++ back)).map Prod.fst ∧
      ((fieldsOf (front ++ back)).map Prod.fst).Nodup := by
  have hperm := (Toml.perm_fieldsOf front f back).map Prod.fst
  exact List.nodup_cons.1 (hperm.nodup_iff.1 h.distinct)

/-- The fields under other keys are still there. -/
theorem IsEdit.has_without (h : c.IsEdit (front ++ .field f :: back))
    (hd : d.entries.AreFields (fieldsOf (front ++ back))) {key : String} {v : Scalar}
    (hfield : (key, v) ∈ fieldsOf (front ++ .field f :: back)) (hne : f.1 ≠ key) :
    d.entries.Has key v := by
  apply hd.has_of_mem h.distinct_without.2
  rw [(Toml.perm_fieldsOf front f back).mem_iff, List.mem_cons] at hfield
  rcases hfield with rfl | hleft
  · exact absurd rfl hne
  · exact hleft

theorem IsEdit.checkEntries_without (h : c.IsEdit (front ++ .field f :: back))
    (hd : d.entries.AreFields (fieldsOf (front ++ back))) : checkEntries d.entries = .ok () := by
  apply checkEntries_of_areFields hd
  intro g hg
  apply h.checkEntry_eq_ok
  rw [(Toml.perm_fieldsOf front f back).mem_iff]
  exact List.mem_cons_of_mem f hg

/-- Without one of the three lines the text is rejected, because the key on that line is missing. -/
theorem IsEdit.ofToml_text_without (h : c.IsEdit (front ++ .field f :: back))
    (hf : f.1 ∈ c.tomlFields.map Prod.fst) (e : LineEnd) :
    ∃ span, ofToml (e.text (front ++ back)) =
      .error (.rejected (e.text (front ++ back)) ⟨span, .missingField f.1⟩) := by
  obtain ⟨hnew, hkeys⟩ := h.distinct_without
  obtain ⟨d, hread, hd⟩ := Document.ofText?_text h.readable_without hkeys e
  obtain ⟨name, flags, hname, -, hperm⟩ := h.fields
  have hfield {g : Field} (hg : g ∈ c.fieldsNaming name) :
      g ∈ fieldsOf (front ++ .field f :: back) :=
    hperm.mem_iff.2 (List.mem_append_left flags hg)
  have hmissing : d.entries.find? f.1 = none := by
    rw [Entries.find?_eq_none_iff, hd.keys_eq]
    exact hnew
  have hos : f.1 ≠ "os" → ∃ name, d.entries.Has "os" (.string name) ∧
      OsFamily.parse name = .ok c.os := by
    intro hne
    refine ⟨name, h.has_without hd (hfield ?_) hne, OsFamily.parse_eq_ok_iff.2 hname⟩
    simp [fieldsNaming]
  have hwide : f.1 ≠ "is-64bit" → d.entries.Has "is-64bit" (.boolean c.is64bit) := by
    intro hne
    refine h.has_without hd (hfield ?_) hne
    simp [fieldsNaming]
  refine ⟨⟨0, d.rootStop⟩, ?_⟩
  rw [ofToml_of_ofText? hread,
    ofDocument_of_missing (h.checkEntries_without hd) hf hmissing hos hwide]
  rfl

end Without

/-- What is read from an edited file. The file of a configuration is an edit of itself, and the
family goes by its names as they are. Every edit is read as the configuration, with either line end;
without the line of one of its three fields it is rejected, and the error names the field. -/
theorem ofToml_text_of_isEdit (c : Config) :
    (c.toToml = LineEnd.lf.text (c.tomlFields.map .field) ∧
        c.IsEdit (c.tomlFields.map .field)) ∧
      (∀ name, OsFamily.ofName? name = some c.os →
        (Line.field ("os", .string name)).chars = "os = \"".toList ++ name.toList ++ ['"']) ∧
      ∀ lines, c.IsEdit lines → ∀ e : LineEnd,
        ofToml (e.text lines) = .ok c ∧
          ∀ front f back, lines = front ++ .field f :: back → f.1 ∈ c.tomlFields.map Prod.fst →
            ∃ span, ofToml (e.text (front ++ back)) =
              .error (.rejected (e.text (front ++ back)) ⟨span, .missingField f.1⟩) := by
  refine ⟨⟨toToml_eq_text c, isEdit_tomlFields c⟩, fun name hname => chars_osLine hname, ?_⟩
  intro lines h e
  refine ⟨h.ofToml_text e, ?_⟩
  rintro front f back rfl hf
  exact h.ofToml_text_without hf e

/-- An edit with its lines in another order, a comment, a blank line and a further flag. -/
theorem ofToml_text_of_isEdit_crlf :
    ofToml "is-lp64 = false\r\n# x\r\nos = \"Win64\"\r\n \r\nx = true\r\nis-64bit = true\r\n" =
        .ok ⟨.windows, true, false⟩ ∧
      ∃ text r, text = "is-lp64 = false\r\n# x\r\n \r\nx = true\r\nis-64bit = true\r\n" ∧
        ofToml text = .error (.rejected text ⟨r, .missingField "os"⟩) := by
  have hedit : IsEdit ⟨.windows, true, false⟩
      [.field ("is-lp64", .boolean false), .comment [' ', 'x'], .field ("os", .string "Win64"),
        .blank [' '], .field ("x", .boolean true), .field ("is-64bit", .boolean true)] := by
    refine ⟨?_, ⟨"Win64", [("x", .boolean true)], rfl, ?_, by decide⟩, by decide⟩
    · simp only [List.forall_mem_cons]
      exact ⟨isReadable_of_key_mem (by simp) (.boolean _), .comment (List.all_eq_true.1 rfl),
        isReadable_of_key_mem (by simp) (.string _), .blank (List.all_eq_true.1 rfl),
        .field (by decide) (List.all_eq_true.1 rfl) (.boolean _),
        isReadable_of_key_mem (by simp) (.boolean _), by simp⟩
    · simp
  obtain ⟨hread, hwithout⟩ := (ofToml_text_of_isEdit _).2.2 _ hedit .crlf
  obtain ⟨r, hr⟩ := hwithout [.field ("is-lp64", .boolean false), .comment [' ', 'x']] _ _ rfl
    (by decide)
  exact ⟨hread, _, r, rfl, hr⟩

end Config

end TargetAbi
