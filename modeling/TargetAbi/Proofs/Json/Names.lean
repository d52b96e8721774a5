import Mathlib.Data.Set.Subsingleton
import TargetAbi.Proofs.BasicType
import TargetAbi.Proofs.Json.Decoding
import TargetAbi.Proofs.LetterCase

/-!
# Names of types and linkages, in texts and in JSON

A linkage is named by its spellings, in any ASCII case (`Linkage.parse_eq_ok_iff_spelling`); a type
is named by its keyword and its short name as they stand. The JSON forms have tables of tags of
their own, one for the encoder and one for the decoder of each type; the tags are the keywords of
types and three of the spellings of linkages. So the JSON decoders accept fewer names than the
readers of texts, and what they accept the readers of texts accept for the same type or linkage
(`names_read_alike`).
-/

set_option autoImplicit false

namespace TargetAbi

open Text (IsLowered SameButCase asciiLower_eq_iff asciiLower_eq_asciiLower_iff)

namespace BasicType

/-- The tags that the decoder knows are the keywords. -/
theorem lookup_tags_eq_some_iff {s : String} {t : BasicType} :
    tags.lookup s = some t ↔ s = t.name := by
  rw [lookup_eq_some_iff_mem (by decide)]
  cases t <;> simp [tags, name]

/-- A type in JSON is its keyword or an object that maps the keyword to `null`. -/
theorem ofJson_eq_ok_iff {v : Json} {t : BasicType} :
    ofJson v = .ok t ↔ v = .str t.name ∨ v = .obj [(t.name, .null)] := by
  rw [ofJson, Json.decodeChoice_eq_ok_iff]
  simp [lookup_tags_eq_some_iff]

end BasicType

namespace Linkage

variable {s t : String} {l : Linkage}

/-- The lower-case spellings of a linkage. -/
def spellings : Linkage → List String
  | c => ["c"]
  | cpp => ["c++", "cpp"]
  | windows => ["windows"]

/-- Each row of the reader's table is a spelling, and each spelling has a row. -/
theorem ofName?_eq_some_iff : ofName? s = some l ↔ Text.asciiLower s ∈ l.spellings := by
  unfold ofName?
  generalize Text.asciiLower s = lower
  constructor
  · intro h
    split at h
    case h_5 => cases h
    all_goals
      cases h
      decide
  · intro h
    cases l with
    | c =>
      obtain rfl := List.mem_singleton.1 h
      rfl
    | cpp =>
      rcases List.mem_pair.1 h with rfl | rfl
      · rfl
      · rfl
    | windows =>
      obtain rfl := List.mem_singleton.1 h
      rfl

theorem parse_eq_ok_iff : parse s = .ok l ↔ ofName? s = some l := by
  unfold parse
  cases ofName? s with
  | none => simp
  | some found => simp

theorem parse_eq_error_iff {e : UnknownName} :
    parse s = .error e ↔ ofName? s = none ∧ e = ⟨.linkage, s⟩ := by
  unfold parse
  cases ofName? s with
  | none => simp [eq_comm]
  | some found => simp

/-- A text names a linkage exactly if it is a spelling of the linkage but for the case of
letters. -/
theorem parse_eq_ok_iff_spelling :
    parse s = .ok l ↔
      ∃ spelling ∈ l.spellings, List.Forall₂ IsLowered s.toList spelling.toList := by
  simp only [parse_eq_ok_iff, ofName?_eq_some_iff, ← asciiLower_eq_iff]
  simp

theorem ofName?_congr (h : List.Forall₂ SameButCase s.toList t.toList) :
    ofName? s = ofName? t := by
  rw [ofName?, ofName?, asciiLower_eq_asciiLower_iff.2 h]

theorem ofName?_text (l : Linkage) : ofName? l.text = some l := by
  cases l <;> rfl

theorem ofName?_tag (l : Linkage) : ofName? l.tag = some l := by
  cases l <;> rfl

/-- The tags that the decoder knows are those that the encoder writes. -/
theorem lookup_tags_eq_some_iff : tags.lookup s = some l ↔ s = l.tag := by
  rw [lookup_eq_some_iff_mem (by decide)]
  cases l <;> simp [tags, tag]

/-- A linkage in JSON is its tag or an object that maps the tag to `null`. -/
theorem ofJson_eq_ok_iff {v : Json} :
    ofJson v = .ok l ↔ v = .str l.tag ∨ v = .obj [(l.tag, .null)] := by
  rw [ofJson, Json.decodeChoice_eq_ok_iff]
  simp [lookup_tags_eq_some_iff]

/-- In a string, a linkage is its tag. -/
theorem ofJson_str_eq_ok_iff :
    ofJson (.str s) = .ok l ↔ (s, l) ∈ [("c", c), ("cpp", cpp), ("windows", windows)] := by
  rw [ofJson_eq_ok_iff]
  cases l <;> simp [tag]

end Linkage

/-- The names of types and of linkages. A text names a type exactly if it is a spelling of the type,
which is its keyword or a short name for it; no text names two types, and JSON knows the keywords
only and is written with them. A text names a linkage exactly if it is one of four spellings but for
the case of letters, the spelling that is shown among them; JSON knows three of them, in small
letters only. What JSON knows, the readers of texts know as the same. A rejected text is kept as it
was written, with what it was to name. -/
theorem names_read_alike (s : String) :
    (∀ t, (BasicType.parse s = .ok t ↔ s ∈ t.spellings) ∧
        (s ∈ t.spellings ↔ s = t.name ∨ (s, t) ∈ BasicType.aliases)) ∧
      Set.Subsingleton {t : BasicType | s ∈ t.spellings} ∧
      (∀ e, BasicType.parse s = .error e ↔
        (∀ t : BasicType, s ∉ t.spellings) ∧ e = ⟨.type, s⟩) ∧
      (∀ t, BasicType.ofJson (.str s) = .ok t ↔ s = t.name) ∧
      (∀ t : BasicType, t.toJson = .str t.name) ∧
      (∀ t, BasicType.ofJson (.str s) = .ok t → BasicType.parse s = .ok t) ∧
      (∀ l, Linkage.parse s = .ok l ↔
        ∃ spelling ∈ l.spellings, List.Forall₂ IsLowered s.toList spelling.toList) ∧
      (∀ t : String, List.Forall₂ SameButCase s.toList t.toList →
        ∀ l, Linkage.parse t = .ok l ↔ Linkage.parse s = .ok l) ∧
      (∀ e, Linkage.parse s = .error e ↔
        (∀ l, Linkage.parse s ≠ .ok l) ∧ e = ⟨.linkage, s⟩) ∧
      (∀ l, Linkage.ofJson (.str s) = .ok l ↔
        (s, l) ∈ [("c", .c), ("cpp", .cpp), ("windows", .windows)]) ∧
      (∀ l, Linkage.ofJson (.str s) = .ok l → Linkage.parse s = .ok l) ∧
      ∀ l : Linkage, Linkage.parse l.text = .ok l := by
  have htype (t : BasicType) : BasicType.ofJson (.str s) = .ok t ↔ s = t.name := by
    simp [BasicType.ofJson_eq_ok_iff]
  refine ⟨fun t => ⟨BasicType.parse_eq_ok_iff, BasicType.mem_spellings_iff⟩,
    fun t ht u hu => BasicType.IsNamed.unique ht hu, fun e => BasicType.parse_eq_error_iff, htype,
    ?_, ?_, fun l => Linkage.parse_eq_ok_iff_spelling, ?_, ?_,
    fun l => Linkage.ofJson_str_eq_ok_iff, ?_, ?_⟩
  · intro t
    rw [BasicType.toJson, BasicType.tag_eq_name]
  · intro t ht
    obtain rfl : s = t.name := (htype t).1 ht
    exact BasicType.parse_eq_ok_iff.2 t.isNamed_name
  · intro t ht l
    rw [Linkage.parse_eq_ok_iff, Linkage.parse_eq_ok_iff, Linkage.ofName?_congr ht]
  · intro e
    simp [Linkage.parse_eq_error_iff, Linkage.parse_eq_ok_iff,
      Option.eq_none_iff_forall_ne_some]
  · intro l hl
    obtain rfl : s = l.tag := by simpa using Linkage.ofJson_eq_ok_iff.1 hl
    exact Linkage.parse_eq_ok_iff.2 (Linkage.ofName?_tag l)
  · intro l
    exact Linkage.parse_eq_ok_iff.2 (Linkage.ofName?_text l)

/-- A keyword and a tag that JSON knows, and the tag with capitals. -/
theorem names_read_alike_tags :
    BasicType.ofJson (.str "complex80") = .ok .complex80 ∧
      BasicType.parse "complex80" = .ok .complex80 ∧
      Linkage.ofJson (.str "cpp") = .ok .cpp ∧ Linkage.parse "cpp" = .ok .cpp ∧
      List.Forall₂ SameButCase "cpp".toList "cPP".toList ∧ Linkage.parse "cPP" = .ok .cpp := by
  obtain ⟨-, -, -, htype, -, hparse, -⟩ := names_read_alike "complex80"
  obtain ⟨-, -, -, -, -, -, -, hcase, -, htag, hlinkage, -⟩ := names_read_alike "cpp"
  have hsame : List.Forall₂ SameButCase "cpp".toList "cPP".toList :=
    asciiLower_eq_asciiLower_iff.1 (by decide)
  have hkeyword := (htype .complex80).2 rfl
  have hcpp := (htag .cpp).2 (by decide)
  exact ⟨hkeyword, hparse .complex80 hkeyword, hcpp, hlinkage .cpp hcpp, hsame,
    (hcase "cPP" hsame .cpp).2 (hlinkage .cpp hcpp)⟩

end TargetAbi
