import TargetAbi.Proofs.Json.Names
import TargetAbi.Proofs.Json.Record
import TargetAbi.Proofs.Json.RoundTrip

/-!
# ABI facts in JSON

The schemas of extended float layouts and of ABI facts, and what their decoders accept: exactly the
objects that have every field of the schema with a value of its kind, in any order among other
fields, and the arrays of these values (`AbiFacts.ofJson_eq_ok_iff_hasFields`). Facts are read back
from their texts, whatever numbers they hold.
-/

set_option autoImplicit false

namespace TargetAbi

namespace Json

variable {v : Json}

/-! ## Kinds of values -/

/-- The value is the integer `x`. -/
def IsWord32 (x : UInt32) (v : Json) : Prop :=
  v = .nat x.toNat

/-- The value is the integer `x`. -/
def IsWord64 (x : UInt64) (v : Json) : Prop :=
  v = .nat x.toNat

/-- The value is the boolean `b`. -/
def IsBool (b : Bool) (v : Json) : Prop :=
  v = .bool b

/-- The value is the tag of the linkage or an object that maps the tag to `null`. -/
def IsLinkage (l : Linkage) (v : Json) : Prop :=
  v = .str l.tag ∨ v = .obj [(l.tag, .null)]

theorem exists_isWord32_iff : (∃ x, IsWord32 x v) ↔ ∃ n : Nat, n < 2 ^ 32 ∧ v = .int n := by
  constructor
  · rintro ⟨x, hx⟩
    exact ⟨x.toNat, x.toNat_lt, hx⟩
  · rintro ⟨n, hn, rfl⟩
    refine ⟨UInt32.ofNat n, ?_⟩
    rw [IsWord32, UInt32.toNat_ofNat_of_lt' hn, nat]

theorem exists_isWord64_iff : (∃ x, IsWord64 x v) ↔ ∃ n : Nat, n < 2 ^ 64 ∧ v = .int n := by
  constructor
  · rintro ⟨x, hx⟩
    exact ⟨x.toNat, x.toNat_lt, hx⟩
  · rintro ⟨n, hn, rfl⟩
    refine ⟨UInt64.ofNat n, ?_⟩
    rw [IsWord64, UInt64.toNat_ofNat_of_lt' hn, nat]

theorem check_decodeWord32 (h : ∃ x, IsWord32 x v) : check v.decodeWord32 = .ok () := by
  obtain ⟨x, hx⟩ := h
  exact check_eq_ok_iff.2 ⟨x, decodeWord32_eq_ok_iff.2 hx⟩

theorem check_decodeBool (h : ∃ b, IsBool b v) : check v.decodeBool = .ok () := by
  obtain ⟨b, hb⟩ := h
  exact check_eq_ok_iff.2 ⟨b, decodeBool_eq_ok_iff.2 hb⟩

end Json

open Json (RecordField HasFields schemaKeys IsWord32 IsWord64 IsBool IsLinkage)
open Json.RecordField (Accepts Holds)

/-! ## Extended float layouts -/

namespace ExtendedFloatLayout

variable {v : Json} {fields : List (String × Json)} {items : List Json} {l : ExtendedFloatLayout}

/-- The fields of an extended float layout. -/
def schema : List (RecordField ExtendedFloatLayout) :=
  [⟨"size", size, IsWord32⟩, ⟨"padding", padding, IsWord32⟩, ⟨"alignment", alignment, IsWord32⟩]

theorem nodup_schemaKeys : (schemaKeys schema).Nodup := by
  decide

theorem checkField_of_accepts {p : RecordField ExtendedFloatLayout} (hp : p ∈ schema)
    (h : p.Accepts v) : checkField p.key v = .ok () := by
  simp only [schema, List.mem_cons, List.not_mem_nil, or_false] at hp
  rcases hp with rfl | rfl | rfl
  · exact Json.check_decodeWord32 h
  · exact Json.check_decodeWord32 h
  · exact Json.check_decodeWord32 h

theorem checkField_of_unknown {name : String} (h : name ∉ schemaKeys schema) (v : Json) :
    checkField name v = .ok () := by
  simp only [schemaKeys, schema, List.map_cons, List.map_nil, List.mem_cons, List.not_mem_nil,
    or_false] at h
  rw [checkField, if_neg h]

theorem ofJson_obj_eq_ok_iff (hkeys : (Json.keys fields).Nodup) :
    ofJson (.obj fields) = .ok l ↔ HasFields schema (Holds l) (.obj fields) := by
  constructor
  · intro h
    simp only [ofJson, bind_eq_ok_iff, Json.field_eq_ok_iff, Json.decodeWord32_eq_ok_iff] at h
    obtain ⟨-, -, size, hsize, padding, hpadding, alignment, halignment, hl⟩ := h
    cases hl
    simp only [HasFields, schema, List.forall_mem_cons]
    exact ⟨hsize, hpadding, halignment, by simp⟩
  · intro h
    -- the first pass also sees the entries that are no fields of a layout
    have hcheck : Json.checkFields checkField fields = .ok () :=
      Json.checkFields_of_hasFields hkeys h
        (fun p hp v _ hv => checkField_of_accepts hp ⟨p.content l, hv⟩)
        (fun name hname v => checkField_of_unknown hname v)
    simp only [HasFields, schema, List.forall_mem_cons] at h
    obtain ⟨hsize, hpadding, halignment, -⟩ := h
    simp only [ofJson, bind_eq_ok_iff, Json.field_eq_ok_iff, Json.decodeWord32_eq_ok_iff]
    exact ⟨(), hcheck, l.size, hsize, l.padding, hpadding, l.alignment, halignment, rfl⟩

theorem ofJson_arr_eq_ok_iff :
    ofJson (.arr items) = .ok l ↔ HasFields schema (Holds l) (.arr items) := by
  simp only [ofJson, bind_eq_ok_iff, Json.element_eq_ok_iff, Json.decodeWord32_eq_ok_iff,
    Json.checkLength_eq_ok_iff, HasFields, schema, Json.forall_getElem?_cons]
  constructor
  · rintro ⟨size, hsize, padding, hpadding, alignment, halignment, -, hlength, hl⟩
    cases hl
    refine ⟨?_, hsize, hpadding, halignment, by simp⟩
    -- there is a last field, and nothing after it
    obtain ⟨v, hv, -⟩ := halignment
    have hlast : 2 < items.length := (List.getElem?_eq_some_iff.1 hv).1
    exact Nat.le_antisymm hlength hlast
  · rintro ⟨hlength, hsize, hpadding, halignment, -⟩
    exact ⟨_, hsize, _, hpadding, _, halignment, (), hlength.le, rfl⟩

/-- An object or an array is read as a layout exactly if its fields hold the layout; no other value
is. -/
theorem ofJson_eq_ok_iff_holds (hv : v.HasDistinctKeys) :
    ofJson v = .ok l ↔ HasFields schema (Holds l) v := by
  cases v with
  | obj fields => exact ofJson_obj_eq_ok_iff hv
  | arr items => exact ofJson_arr_eq_ok_iff
  | null => simp [ofJson, HasFields]
  | bool b => simp [ofJson, HasFields]
  | int n => simp [ofJson, HasFields]
  | float p b => simp [ofJson, HasFields]
  | str s => simp [ofJson, HasFields]

theorem exists_holds_iff :
    (∃ l, HasFields schema (Holds l) v) ↔ HasFields schema Accepts v := by
  refine Json.exists_hasFields_holds_iff ?_ nodup_schemaKeys
  intro fields h
  simp only [HasFields, schema, List.forall_mem_cons] at h
  obtain ⟨⟨v, hv, size, hsize⟩, ⟨w, hw, padding, hpadding⟩,
    ⟨x, hx, alignment, halignment⟩, -⟩ := h
  refine ⟨⟨size, padding, alignment⟩, ?_⟩
  simp only [HasFields, schema, List.forall_mem_cons]
  exact ⟨⟨v, hv, hsize⟩, ⟨w, hw, hpadding⟩, ⟨x, hx, halignment⟩, by simp⟩

theorem ofJson_arr_iff_obj :
    ofJson (.arr items) = .ok l ↔
      items.length = 3 ∧ ofJson (.obj ((schemaKeys schema).zip items)) = .ok l := by
  rw [ofJson_arr_eq_ok_iff, Json.hasFields_arr_iff_obj nodup_schemaKeys]
  refine and_congr_right fun hlength => ?_
  rw [ofJson_obj_eq_ok_iff (Json.nodup_keys_zip nodup_schemaKeys hlength)]

theorem isExact_toJson (l : ExtendedFloatLayout) : l.toJson.IsExact := by
  have hword (x : UInt32) : (Json.nat x.toNat).IsExact :=
    Json.isExact_nat (x.toNat_lt.trans (by decide))
  refine .obj nodup_schemaKeys ?_
  simp only [List.forall_mem_cons]
  exact ⟨hword l.size, hword l.padding, hword l.alignment, by simp⟩

theorem hasDistinctKeys_toJson (l : ExtendedFloatLayout) : l.toJson.HasDistinctKeys :=
  nodup_schemaKeys

theorem holds_toJson (l : ExtendedFloatLayout) :
    HasFields schema (Holds l) l.toJson := by
  simp only [toJson, HasFields, schema, List.forall_mem_cons]
  exact ⟨⟨_, rfl, rfl⟩, ⟨_, rfl, rfl⟩, ⟨_, rfl, rfl⟩, by simp⟩

end ExtendedFloatLayout

/-! ## ABI facts -/

namespace AbiFacts

variable {v : Json} {fields : List (String × Json)} {items : List Json} {f : AbiFacts}

/-- The fields of ABI facts. -/
def schema : List (RecordField AbiFacts) :=
  [⟨"pointer-size", pointerSize, IsWord32⟩, ⟨"class-info-size", classInfoSize, IsWord32⟩,
    ⟨"max-static-data-size", maxStaticDataSize, IsWord64⟩, ⟨"c-long-size", cLongSize, IsWord32⟩,
    ⟨"c-long-double-size", cLongDoubleSize, IsWord32⟩,
    ⟨"real", real, fun l => HasFields ExtendedFloatLayout.schema (Holds l)⟩,
    ⟨"cpp-exceptions", cppExceptions, IsBool⟩,
    ⟨"reverse-cpp-overloads", reverseCppOverloads, IsBool⟩,
    ⟨"system-linkage", systemLinkage, IsLinkage⟩]

theorem nodup_schemaKeys : (schemaKeys schema).Nodup := by
  decide

theorem checkField_of_accepts {p : RecordField AbiFacts} (hp : p ∈ schema) (h : p.Accepts v)
    (hv : p.key = "real" → v.HasDistinctKeys) : checkField p.key v = .ok () := by
  simp only [schema, List.mem_cons, List.not_mem_nil, or_false] at hp
  rcases hp with rfl | rfl | rfl | rfl | rfl | rfl | rfl | rfl | rfl
  · exact Json.check_decodeWord32 h
  · exact Json.check_decodeWord32 h
  · obtain ⟨x, hx⟩ := h
    exact Json.check_eq_ok_iff.2 ⟨x, Json.decodeWord64_eq_ok_iff.2 hx⟩
  · exact Json.check_decodeWord32 h
  · exact Json.check_decodeWord32 h
  · obtain ⟨l, hl⟩ := h
    exact Json.check_eq_ok_iff.2 ⟨l, (ExtendedFloatLayout.ofJson_eq_ok_iff_holds (hv rfl)).2 hl⟩
  · exact Json.check_decodeBool h
  · exact Json.check_decodeBool h
  · obtain ⟨l, hl⟩ := h
    exact Json.check_eq_ok_iff.2 ⟨l, Linkage.ofJson_eq_ok_iff.2 hl⟩

theorem checkField_of_unknown {name : String} (h : name ∉ schemaKeys schema) (v : Json) :
    checkField name v = .ok () := by
  simp only [schemaKeys, schema, List.map_cons, List.map_nil, List.mem_cons, List.not_mem_nil,
    or_false, not_or] at h
  simp [checkField, word32Fields, h]

theorem ofJson_obj_eq_ok_iff (hkeys : (Json.keys fields).Nodup)
    (hreal : ∀ v, fields.lookup "real" = some v → v.HasDistinctKeys) :
    ofJson (.obj fields) = .ok f ↔ HasFields schema (Holds f) (.obj fields) := by
  constructor
  · intro h
    simp only [ofJson, bind_eq_ok_iff, Json.field_eq_ok_iff, Json.decodeWord32_eq_ok_iff,
      Json.decodeWord64_eq_ok_iff, Json.decodeBool_eq_ok_iff, Linkage.ofJson_eq_ok_iff] at h
    obtain ⟨-, -, pointerSize, hpointer, classInfoSize, hclass, maxSize, hmax, cLongSize, hlong,
      cLongDoubleSize, hlongDouble, real, ⟨v, hv, hlayout⟩, cpp, hcpp, reverse, hreverse,
      linkage, hlinkage, hf⟩ := h
    cases hf
    have hlayout := (ExtendedFloatLayout.ofJson_eq_ok_iff_holds (hreal v hv)).1 hlayout
    simp only [HasFields, schema, List.forall_mem_cons]
    exact ⟨hpointer, hclass, hmax, hlong, hlongDouble, ⟨v, hv, hlayout⟩, hcpp, hreverse, hlinkage,
      by simp⟩
  · intro h
    have hcheck : Json.checkFields checkField fields = .ok () := by
      refine Json.checkFields_of_hasFields hkeys h ?_
        fun name hname v => checkField_of_unknown hname v
      intro p hp v hlookup hv
      refine checkField_of_accepts hp ⟨p.content f, hv⟩ ?_
      -- only a layout can have keys of its own
      intro hkey
      rw [hkey] at hlookup
      exact hreal v hlookup
    simp only [HasFields, schema, List.forall_mem_cons] at h
    obtain ⟨hpointer, hclass, hmax, hlong, hlongDouble, ⟨v, hv, hlayout⟩, hcpp, hreverse, hlinkage,
      -⟩ := h
    have hlayout := (ExtendedFloatLayout.ofJson_eq_ok_iff_holds (hreal v hv)).2 hlayout
    simp only [ofJson, bind_eq_ok_iff, Json.field_eq_ok_iff, Json.decodeWord32_eq_ok_iff,
      Json.decodeWord64_eq_ok_iff, Json.decodeBool_eq_ok_iff, Linkage.ofJson_eq_ok_iff]
    exact ⟨(), hcheck, _, hpointer, _, hclass, _, hmax, _, hlong, _, hlongDouble, _,
      ⟨v, hv, hlayout⟩, _, hcpp, _, hreverse, _, hlinkage, rfl⟩

theorem ofJson_arr_eq_ok_iff (hreal : ∀ v, items[5]? = some v → v.HasDistinctKeys) :
    ofJson (.arr items) = .ok f ↔ HasFields schema (Holds f) (.arr items) := by
  simp only [ofJson, bind_eq_ok_iff, Json.element_eq_ok_iff, Json.decodeWord32_eq_ok_iff,
    Json.decodeWord64_eq_ok_iff, Json.decodeBool_eq_ok_iff, Linkage.ofJson_eq_ok_iff,
    Json.checkLength_eq_ok_iff, HasFields, schema, Json.forall_getElem?_cons]
  constructor
  · rintro ⟨pointerSize, hpointer, classInfoSize, hclass, maxSize, hmax, cLongSize, hlong,
      cLongDoubleSize, hlongDouble, real, ⟨v, hv, hlayout⟩, cpp, hcpp, reverse, hreverse,
      linkage, hlinkage, -, hlength, hf⟩
    cases hf
    have hlayout := (ExtendedFloatLayout.ofJson_eq_ok_iff_holds (hreal v hv)).1 hlayout
    refine ⟨?_, hpointer, hclass, hmax, hlong, hlongDouble, ⟨v, hv, hlayout⟩, hcpp, hreverse,
      hlinkage, by simp⟩
    -- there is a last field, and nothing after it
    obtain ⟨w, hw, -⟩ := hlinkage
    have hlast : 8 < items.length := (List.getElem?_eq_some_iff.1 hw).1
    exact Nat.le_antisymm hlength hlast
  · rintro ⟨hlength, hpointer, hclass, hmax, hlong, hlongDouble, ⟨v, hv, hlayout⟩, hcpp, hreverse,
      hlinkage, -⟩
    have hlayout := (ExtendedFloatLayout.ofJson_eq_ok_iff_holds (hreal v hv)).2 hlayout
    exact ⟨_, hpointer, _, hclass, _, hmax, _, hlong, _, hlongDouble, _, ⟨v, hv, hlayout⟩, _, hcpp,
      _, hreverse, _, hlinkage, (), hlength.le, rfl⟩

/-- Another order of the fields, and further fields, do not change what is read. -/
theorem ofJson_obj_perm_iff {others fields' : List (String × Json)}
    (hreal : ∀ v, fields.lookup "real" = some v → v.HasDistinctKeys)
    (hperm : (fields ++ others).Perm fields') (hkeys : (Json.keys fields').Nodup)
    (hothers : ∀ p ∈ schema, p.key ∉ Json.keys others) :
    ofJson (.obj fields') = .ok f ↔ ofJson (.obj fields) = .ok f := by
  have hmem : "real" ∈ schemaKeys schema := by decide
  obtain ⟨p, hp, hkey⟩ := List.mem_map.1 hmem
  have hreal' (v : Json) (hv : fields'.lookup "real" = some v) : v.HasDistinctKeys := by
    rw [← hkey, lookup_eq_of_perm hperm hkeys (hothers p hp), hkey] at hv
    exact hreal v hv
  have hfields : (Json.keys fields).Nodup := nodup_keys_of_perm hperm hkeys
  rw [ofJson_obj_eq_ok_iff hkeys hreal', ofJson_obj_eq_ok_iff hfields hreal,
    Json.hasFields_obj_perm_iff hperm hkeys hothers]

theorem exists_holds_iff :
    (∃ f, HasFields schema (Holds f) v) ↔ HasFields schema Accepts v := by
  refine Json.exists_hasFields_holds_iff ?_ nodup_schemaKeys
  intro fields h
  simp only [HasFields, schema, List.forall_mem_cons] at h
  obtain ⟨⟨v₁, h₁, x₁, hx₁⟩, ⟨v₂, h₂, x₂, hx₂⟩, ⟨v₃, h₃, x₃, hx₃⟩, ⟨v₄, h₄, x₄, hx₄⟩,
    ⟨v₅, h₅, x₅, hx₅⟩, ⟨v₆, h₆, x₆, hx₆⟩, ⟨v₇, h₇, x₇, hx₇⟩, ⟨v₈, h₈, x₈, hx₈⟩,
    ⟨v₉, h₉, x₉, hx₉⟩, -⟩ := h
  refine ⟨⟨x₁, x₂, x₃, x₄, x₅, x₆, x₇, x₈, x₉⟩, ?_⟩
  simp only [HasFields, schema, List.forall_mem_cons]
  exact ⟨⟨v₁, h₁, hx₁⟩, ⟨v₂, h₂, hx₂⟩, ⟨v₃, h₃, hx₃⟩, ⟨v₄, h₄, hx₄⟩, ⟨v₅, h₅, hx₅⟩,
    ⟨v₆, h₆, hx₆⟩, ⟨v₇, h₇, hx₇⟩, ⟨v₈, h₈, hx₈⟩, ⟨v₉, h₉, hx₉⟩, by simp⟩

theorem ofJson_arr_iff_obj (hreal : ∀ v, items[5]? = some v → v.HasDistinctKeys) :
    ofJson (.arr items) = .ok f ↔
      items.length = 9 ∧ ofJson (.obj ((schemaKeys schema).zip items)) = .ok f := by
  rw [ofJson_arr_eq_ok_iff hreal, Json.hasFields_arr_iff_obj nodup_schemaKeys]
  refine and_congr_right fun hlength => ?_
  rw [ofJson_obj_eq_ok_iff (Json.nodup_keys_zip nodup_schemaKeys hlength)]
  intro v hv
  rw [lookup_zip_eq_getElem? nodup_schemaKeys (i := 5) rfl] at hv
  exact hreal v hv

theorem isExact_toJson (f : AbiFacts) : f.toJson.IsExact := by
  have hword (x : UInt32) : (Json.nat x.toNat).IsExact :=
    Json.isExact_nat (x.toNat_lt.trans (by decide))
  refine .obj nodup_schemaKeys ?_
  simp only [List.forall_mem_cons]
  exact ⟨hword _, hword _, Json.isExact_nat f.maxStaticDataSize.toNat_lt, hword _, hword _,
    f.real.isExact_toJson, .bool _, .bool _, .str _, by simp⟩

theorem ofJson_toJson (f : AbiFacts) : ofJson f.toJson = .ok f := by
  refine (ofJson_obj_eq_ok_iff ?_ ?_).2 ?_
  · exact nodup_schemaKeys
  · intro v hv
    cases hv
    exact f.real.hasDistinctKeys_toJson
  · simp only [HasFields, schema, List.forall_mem_cons]
    exact ⟨⟨_, rfl, rfl⟩, ⟨_, rfl, rfl⟩, ⟨_, rfl, rfl⟩, ⟨_, rfl, rfl⟩, ⟨_, rfl, rfl⟩,
      ⟨_, rfl, f.real.holds_toJson⟩, ⟨_, rfl, rfl⟩, ⟨_, rfl, rfl⟩, ⟨_, rfl, .inl rfl⟩, by simp⟩

/-- Facts are read back from their text, in either spacing. -/
theorem ofText?_chars (s : Json.Spacing) (f : AbiFacts) :
    (Json.ofText? (String.ofList (f.toJson.chars s 0))).map ofJson = some (.ok f) := by
  rw [Json.ofText?_chars s f.isExact_toJson, Option.map_some, ofJson_toJson]

/-- What is read as ABI facts. An object is, exactly if each of the nine fields has a value of its
kind: integers of 32 bits, one of 64 bits, a layout, two booleans and a linkage. These values are
the facts, in any order and whatever fields there are besides. An array of nine elements is read as
the object that has them under the keys of the fields, and no other array is. A layout is an object
or an array in the same way. The text of any facts, not only of those of some configuration, is read
as the facts. -/
theorem ofJson_eq_ok_iff_hasFields :
    (∀ v, (∃ x, IsWord32 x v) ↔ ∃ n : Nat, n < 2 ^ 32 ∧ v = .int n) ∧
      (∀ v, (∃ x, IsWord64 x v) ↔ ∃ n : Nat, n < 2 ^ 64 ∧ v = .int n) ∧
      (∀ fields, (Json.keys fields).Nodup →
        (∀ v, fields.lookup "real" = some v → v.HasDistinctKeys) →
          ((∃ f, ofJson (.obj fields) = .ok f) ↔ HasFields schema Accepts (.obj fields)) ∧
          (∀ f, ofJson (.obj fields) = .ok f ↔ HasFields schema (Holds f) (.obj fields)) ∧
          ∀ others fields', (fields ++ others).Perm fields' → (Json.keys fields').Nodup →
            (∀ p ∈ schema, p.key ∉ Json.keys others) →
              ∀ f, ofJson (.obj fields') = .ok f ↔ ofJson (.obj fields) = .ok f) ∧
      (∀ items : List Json, (∀ v, items[5]? = some v → v.HasDistinctKeys) →
        ((∃ f, ofJson (.arr items) = .ok f) ↔ HasFields schema Accepts (.arr items)) ∧
        ∀ f, ofJson (.arr items) = .ok f ↔
          items.length = 9 ∧ ofJson (.obj ((schemaKeys schema).zip items)) = .ok f) ∧
      (∀ v : Json, v.HasDistinctKeys →
        ((∃ l, ExtendedFloatLayout.ofJson v = .ok l) ↔
          HasFields ExtendedFloatLayout.schema Accepts v) ∧
        ∀ l, ExtendedFloatLayout.ofJson v = .ok l ↔
          HasFields ExtendedFloatLayout.schema (Holds l) v) ∧
      (∀ items l, ExtendedFloatLayout.ofJson (.arr items) = .ok l ↔
        items.length = 3 ∧
          ExtendedFloatLayout.ofJson (.obj ((schemaKeys ExtendedFloatLayout.schema).zip items)) =
            .ok l) ∧
      ∀ f : AbiFacts, (Json.ofText? f.toJson.compact).map ofJson = some (.ok f) ∧
        (Json.ofText? f.toJson.pretty).map ofJson = some (.ok f) := by
  refine ⟨fun v => Json.exists_isWord32_iff, fun v => Json.exists_isWord64_iff, ?_, ?_, ?_,
    fun items l => ExtendedFloatLayout.ofJson_arr_iff_obj,
    fun f => ⟨ofText?_chars .compact f, ofText?_chars .pretty f⟩⟩
  · intro fields hkeys hreal
    refine ⟨?_, fun f => ofJson_obj_eq_ok_iff hkeys hreal, ?_⟩
    · simp only [ofJson_obj_eq_ok_iff hkeys hreal, exists_holds_iff]
    · intro others fields' hperm hkeys' hothers f
      exact ofJson_obj_perm_iff hreal hperm hkeys' hothers
  · intro items hreal
    refine ⟨?_, fun f => ofJson_arr_iff_obj hreal⟩
    simp only [ofJson_arr_eq_ok_iff hreal, exists_holds_iff]
  · intro v hv
    refine ⟨?_, fun l => ExtendedFloatLayout.ofJson_eq_ok_iff_holds hv⟩
    simp only [ExtendedFloatLayout.ofJson_eq_ok_iff_holds hv, ExtendedFloatLayout.exists_holds_iff]

/-- The greatest numbers, with the layout as an array, the linkage as an object and a key that is
unknown because it is in camel case. -/
theorem ofJson_eq_ok_iff_hasFields_greatest :
    ofJson (.obj [("pointerSize", .null), ("max-static-data-size", .int 18446744073709551615),
        ("class-info-size", .int 4294967295), ("pointer-size", .int 8), ("c-long-size", .int 0),
        ("c-long-double-size", .int 16), ("system-linkage", .obj [("cpp", .null)]),
        ("real", .arr [.int 16, .int 6, .int 16]), ("cpp-exceptions", .bool true),
        ("reverse-cpp-overloads", .bool false)]) =
        .ok ⟨8, 4294967295, 18446744073709551615, 0, 16, ⟨16, 6, 16⟩, true, false, .cpp⟩ ∧
      ofJson (.arr [.int 8, .int 4294967295, .int 18446744073709551615, .int 0, .int 16,
          .arr [.int 16, .int 6, .int 16], .bool true, .bool false, .str "cpp"]) =
        .ok ⟨8, 4294967295, 18446744073709551615, 0, 16, ⟨16, 6, 16⟩, true, false, .cpp⟩ := by
  obtain ⟨-, -, hobj, harr, -⟩ := ofJson_eq_ok_iff_hasFields
  constructor
  · refine ((hobj _ ?_ ?_).2.2 [("pointerSize", .null)] _ (List.perm_append_singleton _ _)
      (by decide) ?_ _).2 rfl
    · decide
    · rintro v ⟨⟩
      trivial
    · simp only [schema, List.forall_mem_cons]
      simp [Json.keys]
  · refine ((harr _ ?_).2 _).2 ⟨rfl, rfl⟩
    rintro v ⟨⟩
    trivial

end AbiFacts

end TargetAbi
