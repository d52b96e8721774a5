import TargetAbi.Load
import TargetAbi.Proofs.Json.Decoding
import TargetAbi.Proofs.Toml.Keys

/-!
# Documents that are configurations

A table describes a configuration if it has the three keys with values of their kinds and the name
of the family (`Entries.Describes`); other keys, tables below it and the order of the keys do not
matter. Exactly the texts whose documents describe a configuration are read as one, every other
document is rejected as TOML, and the JSON decoder accepts exactly the objects with the same strings
and booleans (`ofToml_eq_ok_iff_describes`).
-/

set_option autoImplicit false

namespace TargetAbi

open Toml (Document Entries Node Scalar Span)

/-! ## The TOML decoder -/

namespace Toml

/-- The table has what a configuration needs: the name of its family and its two flags. -/
structure Entries.Describes (es : Entries) (c : Config) : Prop where
  os : ∃ name, es.Has "os" (.string name) ∧ OsFamily.parse name = .ok c.os
  is64bit : es.Has "is-64bit" (.boolean c.is64bit)
  isLp64 : es.Has "is-lp64" (.boolean c.isLp64)

namespace Node

variable {v : Node}

theorem decodeBool_eq_ok_iff {b : Bool} : v.decodeBool = .ok b ↔ v = .scalar (.boolean b) := by
  constructor
  · intro h
    unfold decodeBool at h
    split at h
    · cases h
      rfl
    · cases h
  · rintro rfl
    rfl

theorem decodeString_eq_ok_iff {s : String} : v.decodeString = .ok s ↔ v = .scalar (.string s) := by
  constructor
  · intro h
    unfold decodeString at h
    split at h
    · cases h
      rfl
    · cases h
  · rintro rfl
    rfl

theorem decodeOs_eq_ok_iff {os : OsFamily} :
    v.decodeOs = .ok os ↔ ∃ name, v = .scalar (.string name) ∧ OsFamily.parse name = .ok os := by
  refine bind_eq_ok_iff.trans ?_
  simp only [decodeString_eq_ok_iff, OsFamily.decodeName_eq_ok_iff]

end Node

end Toml

namespace Config

variable {d : Document} {es : Entries} {c : Config}

/-- A key of another name may have any value. -/
theorem checkEntry_eq_ok_iff {name : String} {v : Node} :
    checkEntry name v = .ok () ↔
      (name = "os" → ∃ os, v.decodeOs = .ok os) ∧
        (name = "is-64bit" ∨ name = "is-lp64" → ∃ b, v.decodeBool = .ok b) := by
  unfold checkEntry
  split
  · rename_i hos
    subst hos
    simp [map_eq_ok_iff]
  · rename_i hos
    split
    · rename_i hflag
      simp [map_eq_ok_iff, hos, hflag]
    · rename_i hflag
      simp [hos, hflag]

theorem checkEntries_eq_ok_iff :
    checkEntries es = .ok () ↔ ∀ e ∈ es, checkEntry e.1 e.2.2 = .ok () := by
  induction es with
  | nil => simp [checkEntries]
  | cons e es ih =>
    obtain ⟨name, span, v⟩ := e
    rw [checkEntries, List.forall_mem_cons]
    cases checkEntry name v with
    | ok u => simpa using ih
    | error e => simp

/-- The first entry with a wrong value is the error. -/
theorem checkEntries_eq_error {front back : Entries} {name : String} {span : Span} {v : Node}
    {e : DecodeError} (hfront : ∀ p ∈ front, checkEntry p.1 p.2.2 = .ok ())
    (he : checkEntry name v = .error e) :
    checkEntries (front ++ (name, span, v) :: back) = .error ⟨span, e⟩ := by
  induction front with
  | nil => rw [List.nil_append, checkEntries, he]
  | cons p front ih =>
    obtain ⟨k, s, w⟩ := p
    obtain ⟨hp, hrest⟩ := List.forall_mem_cons.1 hfront
    rw [List.cons_append, checkEntries, hp]
    exact ih hrest

theorem entry_eq_ok_iff {α : Type} {name : String} {decode : Node → Except DecodeError α} {a : α} :
    entry d name decode = .ok a ↔
      ∃ span v, d.entries.find? name = some (span, v) ∧ decode v = .ok a := by
  unfold entry
  cases d.entries.find? name with
  | none => simp
  | some found =>
    obtain ⟨span, v⟩ := found
    cases hv : decode v with
    | ok b => simp [hv]
    | error e => simp [hv]

/-- In a table with distinct keys and both flags, a wrong value can only be that of the family. -/
theorem checkEntry_of_flags (hkeys : es.keys.Nodup) {wide lp64 : Bool}
    (hwide : es.Has "is-64bit" (.boolean wide)) (hlp64 : es.Has "is-lp64" (.boolean lp64))
    {name : String} {span : Span} {v : Node} (hmem : (name, span, v) ∈ es) (hname : name ≠ "os") :
    checkEntry name v = .ok () := by
  have hfind := Entries.find?_eq_some_of_mem hkeys hmem
  rw [checkEntry_eq_ok_iff]
  refine ⟨fun hos => absurd hos hname, ?_⟩
  rintro (rfl | rfl)
  · exact ⟨wide, Node.decodeBool_eq_ok_iff.2 (hwide.eq_of_find? hfind)⟩
  · exact ⟨lp64, Node.decodeBool_eq_ok_iff.2 (hlp64.eq_of_find? hfind)⟩

theorem checkEntries_of_describes (hkeys : es.keys.Nodup) (h : es.Describes c) :
    checkEntries es = .ok () := by
  rw [checkEntries_eq_ok_iff]
  rintro ⟨name, span, v⟩ hmem
  by_cases hname : name = "os"
  · subst hname
    obtain ⟨osName, hos, hparse⟩ := h.os
    have hv := hos.eq_of_find? (Entries.find?_eq_some_of_mem hkeys hmem)
    rw [checkEntry_eq_ok_iff]
    exact ⟨fun _ => ⟨c.os, Node.decodeOs_eq_ok_iff.2 ⟨osName, hv, hparse⟩⟩, by simp⟩
  · exact checkEntry_of_flags hkeys h.is64bit h.isLp64 hmem hname

theorem ofDocument_eq_ok_iff (hkeys : d.entries.keys.Nodup) :
    ofDocument d = .ok c ↔ d.entries.Describes c := by
  simp only [ofDocument, bind_eq_ok_iff, entry_eq_ok_iff, Node.decodeOs_eq_ok_iff,
    Node.decodeBool_eq_ok_iff]
  constructor
  · rintro ⟨-, -, os, ⟨osSpan, v, hos, name, rfl, hparse⟩, wide, ⟨span, w, hwide, rfl⟩, lp64,
      ⟨lpSpan, x, hlp64, rfl⟩, hc⟩
    cases hc
    exact ⟨⟨name, ⟨osSpan, hos⟩, hparse⟩, ⟨span, hwide⟩, ⟨lpSpan, hlp64⟩⟩
  · intro h
    have hcheck := checkEntries_of_describes hkeys h
    obtain ⟨⟨name, ⟨osSpan, hos⟩, hparse⟩, ⟨span, hwide⟩, ⟨lpSpan, hlp64⟩⟩ := h
    exact ⟨(), hcheck, c.os, ⟨osSpan, _, hos, name, rfl, hparse⟩, c.is64bit, ⟨span, _, hwide, rfl⟩,
      c.isLp64, ⟨lpSpan, _, hlp64, rfl⟩, rfl⟩

/-- The error of an unknown family points to its name. -/
theorem ofDocument_of_unknownOs (hkeys : d.entries.keys.Nodup) {name : String} {span : Span}
    (hos : d.entries.find? "os" = some (span, .scalar (.string name)))
    (hname : OsFamily.ofName? name = none) {wide lp64 : Bool}
    (hwide : d.entries.Has "is-64bit" (.boolean wide))
    (hlp64 : d.entries.Has "is-lp64" (.boolean lp64)) :
    ofDocument d = .error ⟨span, .unknownOs ⟨name⟩⟩ := by
  obtain ⟨front, back, hsplit, hfront⟩ := List.lookup_eq_some_iff.1 hos
  have hos : checkEntry "os" (.scalar (.string name)) = .error (.unknownOs ⟨name⟩) := by
    show ((OsFamily.decodeName name).map fun _ => ()) = _
    rw [OsFamily.decodeName, OsFamily.parse_eq_error_iff.2 ⟨hname, rfl⟩]
    rfl
  -- the entries before the name are other keys, whose values are of their kinds
  have hcheck : checkEntries d.entries = .error ⟨span, .unknownOs ⟨name⟩⟩ := by
    rw [hsplit]
    refine checkEntries_eq_error ?_ hos
    rintro ⟨k, s, v⟩ hmem
    have hne : k ≠ "os" := (bne_iff_ne.1 (hfront (k, s, v) hmem)).symm
    have hentry : (k, s, v) ∈ d.entries := by
      rw [hsplit]
      exact List.mem_append_left _ hmem
    exact checkEntry_of_flags hkeys hwide hlp64 hentry hne
  rw [ofDocument, hcheck]
  rfl

/-- If one of the keys is missing and the values of the others are of their kinds, the error names
the key that is missing. -/
theorem ofDocument_of_missing {key : String} (hcheck : checkEntries d.entries = .ok ())
    (hkey : key ∈ ["os", "is-64bit", "is-lp64"]) (hmissing : d.entries.find? key = none)
    (hos : key ≠ "os" → ∃ name, d.entries.Has "os" (.string name) ∧ OsFamily.parse name = .ok c.os)
    (hwide : key ≠ "is-64bit" → d.entries.Has "is-64bit" (.boolean c.is64bit)) :
    ofDocument d = .error ⟨⟨0, d.rootStop⟩, .missingField key⟩ := by
  have hentry {α : Type} (decode : Node → Except DecodeError α) :
      entry d key decode = .error ⟨⟨0, d.rootStop⟩, .missingField key⟩ := by
    rw [entry, hmissing]
  rw [ofDocument, hcheck]
  -- the keys are looked up in this order, and the first one that is missing is the error
  by_cases hisOs : key = "os"
  · subst hisOs
    rw [hentry]
    rfl
  · obtain ⟨name, ⟨span, hfind⟩, hparse⟩ := hos hisOs
    rw [entry_eq_ok_iff.2 ⟨span, _, hfind, Node.decodeOs_eq_ok_iff.2 ⟨name, rfl, hparse⟩⟩]
    by_cases hisWide : key = "is-64bit"
    · subst hisWide
      rw [hentry]
      rfl
    · obtain ⟨span, hfind⟩ := hwide hisWide
      rw [entry_eq_ok_iff.2 ⟨span, _, hfind, Node.decodeBool_eq_ok_iff.2 rfl⟩]
      obtain rfl : key = "is-lp64" := by simpa [hisOs, hisWide] using hkey
      rw [hentry]
      rfl

/-! ## The JSON decoder -/

theorem checkField_eq_ok_iff {name : String} {v : Json} :
    checkField name v = .ok () ↔
      (name = "os" → ∃ os, OsFamily.ofJson v = .ok os) ∧
        (name = "is-64bit" ∨ name = "is-lp64" → ∃ b, v.decodeBool = .ok b) := by
  unfold checkField
  split
  · rename_i hos
    subst hos
    simp [Json.check_eq_ok_iff]
  · rename_i hos
    split
    · rename_i hflag
      simp [Json.check_eq_ok_iff, hos, hflag]
    · rename_i hflag
      simp [hos, hflag]

theorem ofJson_obj_eq_ok_iff {fields : List (String × Json)} (hkeys : (Json.keys fields).Nodup) :
    ofJson (.obj fields) = .ok c ↔
      (∃ name, fields.lookup "os" = some (.str name) ∧ OsFamily.parse name = .ok c.os) ∧
        fields.lookup "is-64bit" = some (.bool c.is64bit) ∧
        fields.lookup "is-lp64" = some (.bool c.isLp64) := by
  simp only [ofJson, bind_eq_ok_iff, Json.field_eq_ok_iff, OsFamily.ofJson_eq_ok_iff,
    Json.decodeBool_eq_ok_iff]
  constructor
  · rintro ⟨-, -, os, ⟨v, hos, name, rfl, hparse⟩, wide, ⟨w, hwide, rfl⟩, lp64, ⟨x, hlp64, rfl⟩, hc⟩
    cases hc
    exact ⟨⟨name, hos, hparse⟩, hwide, hlp64⟩
  · rintro ⟨⟨name, hos, hparse⟩, hwide, hlp64⟩
    refine ⟨(), ?_, c.os, ⟨_, hos, name, rfl, hparse⟩, c.is64bit, ⟨_, hwide, rfl⟩, c.isLp64,
      ⟨_, hlp64, rfl⟩, rfl⟩
    apply Json.checkFields_eq_ok_iff.2
    -- with distinct keys, a field is the one that its key finds
    rintro ⟨k, v⟩ hmem
    have hfind := lookup_eq_some_of_mem hkeys hmem
    rw [checkField_eq_ok_iff]
    constructor
    · rintro rfl
      rw [hos, Option.some.injEq] at hfind
      exact ⟨c.os, OsFamily.ofJson_eq_ok_iff.2 ⟨name, hfind.symm, hparse⟩⟩
    · rintro (rfl | rfl)
      · rw [hwide, Option.some.injEq] at hfind
        exact ⟨_, Json.decodeBool_eq_ok_iff.2 hfind.symm⟩
      · rw [hlp64, Option.some.injEq] at hfind
        exact ⟨_, Json.decodeBool_eq_ok_iff.2 hfind.symm⟩

/-! ## Texts and files -/

/-- A table and the fields of an object have the same strings and the same booleans; their other
values may differ. -/
structure SameScalars (es : Entries) (fields : List (String × Json)) : Prop where
  string_iff : ∀ key s, es.Has key (.string s) ↔ fields.lookup key = some (.str s)
  boolean_iff : ∀ key b, es.Has key (.boolean b) ↔ fields.lookup key = some (.bool b)

/-- The JSON form of a string or a boolean. -/
def jsonScalar? : Node → Option Json
  | .scalar (.string s) => some (.str s)
  | .scalar (.boolean b) => some (.bool b)
  | _ => none

/-- The fields of an object with the strings and booleans of a table, and nothing else. -/
def jsonFields (es : Entries) : List (String × Json) :=
  es.filterMap fun e => (jsonScalar? e.2.2).map (e.1, ·)

theorem jsonScalar?_eq_str_iff {v : Node} {s : String} :
    jsonScalar? v = some (.str s) ↔ v = .scalar (.string s) := by
  constructor
  · intro h
    unfold jsonScalar? at h
    split at h <;> cases h
    rfl
  · rintro rfl
    rfl

theorem jsonScalar?_eq_bool_iff {v : Node} {b : Bool} :
    jsonScalar? v = some (.bool b) ↔ v = .scalar (.boolean b) := by
  constructor
  · intro h
    unfold jsonScalar? at h
    split at h <;> cases h
    rfl
  · rintro rfl
    rfl

theorem keys_jsonFields_sublist (es : Entries) : (Json.keys (jsonFields es)).Sublist es.keys := by
  induction es with
  | nil => exact .slnil
  | cons e es ih =>
    unfold jsonFields at ih ⊢
    cases hv : jsonScalar? e.2.2 with
    | none =>
      rw [List.filterMap_cons_none (by rw [hv]; rfl)]
      exact ih.cons e.1
    | some j =>
      rw [List.filterMap_cons_some (by rw [hv]; rfl)]
      exact ih.cons_cons e.1

theorem lookup_jsonFields_eq_some_iff (hkeys : es.keys.Nodup) {key : String} {j : Json} :
    (jsonFields es).lookup key = some j ↔
      ∃ span v, es.find? key = some (span, v) ∧ jsonScalar? v = some j := by
  constructor
  · intro h
    obtain ⟨⟨k, span, v⟩, hmem, hv⟩ := List.mem_filterMap.1 (mem_of_lookup_eq_some h)
    obtain ⟨w, hw, heq⟩ := Option.map_eq_some_iff.1 hv
    cases heq
    exact ⟨span, v, Entries.find?_eq_some_of_mem hkeys hmem, hw⟩
  · rintro ⟨span, v, hfind, hv⟩
    refine lookup_eq_some_of_mem (hkeys.sublist (keys_jsonFields_sublist es)) ?_
    refine List.mem_filterMap.2 ⟨(key, span, v), mem_of_lookup_eq_some hfind, ?_⟩
    rw [hv]
    rfl

theorem sameScalars_jsonFields (hkeys : es.keys.Nodup) : SameScalars es (jsonFields es) where
  string_iff key s := by
    simp only [lookup_jsonFields_eq_some_iff hkeys, jsonScalar?_eq_str_iff, Entries.Has]
    simp
  boolean_iff key b := by
    simp only [lookup_jsonFields_eq_some_iff hkeys, jsonScalar?_eq_bool_iff, Entries.Has]
    simp

theorem SameScalars.describes_iff {fields : List (String × Json)} (h : SameScalars es fields) :
    es.Describes c ↔
      (∃ name, fields.lookup "os" = some (.str name) ∧ OsFamily.parse name = .ok c.os) ∧
        fields.lookup "is-64bit" = some (.bool c.is64bit) ∧
        fields.lookup "is-lp64" = some (.bool c.isLp64) := by
  simp only [← h.string_iff, ← h.boolean_iff]
  constructor
  · rintro ⟨hos, hwide, hlp64⟩
    exact ⟨hos, hwide, hlp64⟩
  · rintro ⟨hos, hwide, hlp64⟩
    exact ⟨hos, hwide, hlp64⟩

theorem ofToml_of_ofText? {text : String} (h : Document.ofText? text = some d) :
    ofToml text = (ofDocument d).mapError (.rejected text) := by
  rw [ofToml, h]
  cases hd : ofDocument d with
  | ok c => simp only [hd]; rfl
  | error r => simp only [hd]; rfl

theorem load_of_readText {files : FileSystem} {path text : String}
    (h : files.readText path = .ok text) : load files path = (ofToml text).mapError .toml := by
  rw [load, h]
  cases hc : ofToml text with
  | ok c => simp only [hc]; rfl
  | error e => simp only [hc]; rfl

/-- What is read from the text of a document, whatever else the document holds. It is read as a
configuration exactly if its table describes that configuration. Every other document is rejected as
TOML, also one that names an unknown family, and also when it is loaded from a file. The JSON decoder
agrees on every object with the same strings and booleans. -/
theorem ofToml_eq_ok_iff_describes {text : String} (h : Document.ofText? text = some d) :
    (∀ c, ofToml text = .ok c ↔ d.entries.Describes c) ∧
      ((∀ c, ¬ d.entries.Describes c) → ∃ r, ofToml text = .error (.rejected text r)) ∧
      (∀ name span wide lp64, d.entries.find? "os" = some (span, .scalar (.string name)) →
        OsFamily.ofName? name = none → d.entries.Has "is-64bit" (.boolean wide) →
        d.entries.Has "is-lp64" (.boolean lp64) →
          ofToml text = .error (.rejected text ⟨span, .unknownOs ⟨name⟩⟩)) ∧
      (∀ (files : FileSystem) path e, files.readText path = .ok text →
        load files path = .error e → ∃ r, e = .toml (.rejected text r)) ∧
      (∃ fields, (Json.keys fields).Nodup ∧ SameScalars d.entries fields) ∧
      ∀ fields, (Json.keys fields).Nodup → SameScalars d.entries fields →
        ∀ c, ofJson (.obj fields) = .ok c ↔ ofToml text = .ok c := by
  have hkeys := Document.nodup_keys_ofText? h
  have hread := ofToml_of_ofText? h
  have hok (c : Config) : ofToml text = .ok c ↔ d.entries.Describes c := by
    rw [hread, mapError_eq_ok_iff, ofDocument_eq_ok_iff hkeys]
  refine ⟨hok, ?_, ?_, ?_, ?_, ?_⟩
  · intro hnone
    cases hd : ofDocument d with
    | ok c => exact absurd ((ofDocument_eq_ok_iff hkeys).1 hd) (hnone c)
    | error r => exact ⟨r, hread.trans (mapError_eq_error_iff.2 ⟨r, hd, rfl⟩)⟩
  · intro name span wide lp64 hos hname hwide hlp64
    rw [hread, ofDocument_of_unknownOs hkeys hos hname hwide hlp64]
    rfl
  · intro files path e hfile herror
    rw [load_of_readText hfile, hread] at herror
    obtain ⟨cause, hcause, rfl⟩ := mapError_eq_error_iff.1 herror
    obtain ⟨r, -, rfl⟩ := mapError_eq_error_iff.1 hcause
    exact ⟨r, rfl⟩
  · exact ⟨jsonFields d.entries, hkeys.sublist (keys_jsonFields_sublist d.entries),
      sameScalars_jsonFields hkeys⟩
  · intro fields hfields hsame c
    rw [hok, hsame.describes_iff, ofJson_obj_eq_ok_iff hfields]

/-- A document with its keys in another order, among others, and with an alias in mixed case. -/
theorem ofToml_eq_ok_iff_describes_alias :
    ∃ d, Document.ofText?
        "is-lp64 = false\nx.y = 1\nos = 'OsX'\nis-64bit = true # wide\n[z]\nos = 3\n" = some d ∧
      d.entries.Describes ⟨.macos, true, false⟩ ∧
      ∃ fields, SameScalars d.entries fields ∧
        ofJson (.obj fields) = .ok ⟨.macos, true, false⟩ := by
  obtain ⟨d, hd⟩ := Option.isSome_iff_exists.1 (by decide +kernel : (Document.ofText?
    "is-lp64 = false\nx.y = 1\nos = 'OsX'\nis-64bit = true # wide\n[z]\nos = 3\n").isSome = true)
  have hread : ofToml
      "is-lp64 = false\nx.y = 1\nos = 'OsX'\nis-64bit = true # wide\n[z]\nos = 3\n" =
        .ok ⟨.macos, true, false⟩ := by
    decide +kernel
  obtain ⟨hok, -, -, -, ⟨fields, hkeys, hsame⟩, hjson⟩ := ofToml_eq_ok_iff_describes hd
  exact ⟨d, hd, (hok _).1 hread, fields, hsame, (hjson fields hkeys hsame _).2 hread⟩

end Config

end TargetAbi
