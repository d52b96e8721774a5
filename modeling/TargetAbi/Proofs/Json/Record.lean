import TargetAbi.Proofs.Json.Decoding

/-!
# Records in JSON

The fields of a record, in the order of their declaration, are its schema. A record stands in JSON
as an object that binds the key of each field to a value, or as the array of these values in the
order of the schema (`HasFields`). In an object neither the order of the keys nor further keys
matter (`hasFields_obj_perm_iff`), and an array says what the object with its values under the keys
says (`hasFields_arr_iff_obj`).
-/

set_option autoImplicit false

namespace TargetAbi.Json

/-- A field of the records of type `ρ`: its key, what it holds in a record, and which values stand
for what it can hold. -/
structure RecordField (ρ : Type) where
  key : String
  {Content : Type}
  content : ρ → Content
  Form : Content → Json → Prop

namespace RecordField

variable {ρ : Type}

/-- The value stands for something that the field can hold. -/
def Accepts (p : RecordField ρ) (v : Json) : Prop :=
  ∃ x, p.Form x v

/-- The value stands for what the record `r` holds in the field. -/
def Holds (r : ρ) (p : RecordField ρ) (v : Json) : Prop :=
  p.Form (p.content r) v

end RecordField

variable {ρ : Type} {schema : List (RecordField ρ)} {P Q : RecordField ρ → Json → Prop}
  {v : Json} {fields : List (String × Json)} {items : List Json}

/-- The keys of a schema. -/
def schemaKeys (schema : List (RecordField ρ)) : List String :=
  schema.map (·.key)

/-- The value is an object in which the key of each field has a value that satisfies `P`, or an
array of exactly these values in the order of the schema. -/
def HasFields (schema : List (RecordField ρ)) (P : RecordField ρ → Json → Prop) : Json → Prop
  | obj fields => ∀ p ∈ schema, ∃ v, fields.lookup p.key = some v ∧ P p v
  | arr items => items.length = schema.length ∧
      ∀ (i : Nat) p, schema[i]? = some p → ∃ v, items[i]? = some v ∧ P p v
  | _ => False

/-- No key of an object occurs twice. -/
def HasDistinctKeys : Json → Prop
  | obj fields => (keys fields).Nodup
  | _ => True

theorem HasFields.mono (h : HasFields schema P v) (hPQ : ∀ p v, P p v → Q p v) :
    HasFields schema Q v := by
  cases v with
  | obj fields =>
    intro p hp
    obtain ⟨v, hv, hP⟩ := h p hp
    exact ⟨v, hv, hPQ p v hP⟩
  | arr items =>
    obtain ⟨hlength, h⟩ := h
    refine ⟨hlength, fun i p hp => ?_⟩
    obtain ⟨v, hv, hP⟩ := h i p hp
    exact ⟨v, hv, hPQ p v hP⟩
  | null => exact h
  | bool b => exact h
  | int n => exact h
  | float p b => exact h
  | str s => exact h

theorem forall_getElem?_cons {α : Type*} {x : α} {l : List α} {Q : Nat → α → Prop} :
    (∀ i a, (x :: l)[i]? = some a → Q i a) ↔ Q 0 x ∧ ∀ i a, l[i]? = some a → Q (i + 1) a := by
  constructor
  · intro h
    exact ⟨h 0 x rfl, fun i a hi => h (i + 1) a hi⟩
  · rintro ⟨hx, hl⟩ i a hi
    cases i with
    | zero =>
      cases hi
      exact hx
    | succ i => exact hl i a hi

/-- The order of the keys of an object does not matter, nor do keys that the schema does not
have. -/
theorem hasFields_obj_perm_iff {others fields' : List (String × Json)}
    (hperm : (fields ++ others).Perm fields') (hkeys : (keys fields').Nodup)
    (hothers : ∀ p ∈ schema, p.key ∉ keys others) :
    HasFields schema P (.obj fields') ↔ HasFields schema P (.obj fields) := by
  refine forall₂_congr fun p hp => ?_
  rw [lookup_eq_of_perm hperm hkeys (hothers p hp)]

/-- An array stands for the object with its values under the keys of the schema. -/
theorem hasFields_arr_iff_obj (hkeys : (schemaKeys schema).Nodup) :
    HasFields schema P (.arr items) ↔
      items.length = schema.length ∧ HasFields schema P (.obj ((schemaKeys schema).zip items)) := by
  -- the key at a place of the schema finds the value at that place of the array
  have hlookup {i : Nat} {p : RecordField ρ} (hi : schema[i]? = some p) :
      ((schemaKeys schema).zip items).lookup p.key = items[i]? := by
    apply lookup_zip_eq_getElem? hkeys
    rw [schemaKeys, List.getElem?_map, hi]
    rfl
  constructor
  · rintro ⟨hlength, h⟩
    refine ⟨hlength, fun p hp => ?_⟩
    obtain ⟨i, hi⟩ := List.getElem?_of_mem hp
    obtain ⟨v, hv, hP⟩ := h i p hi
    exact ⟨v, (hlookup hi).trans hv, hP⟩
  · rintro ⟨hlength, h⟩
    refine ⟨hlength, fun i p hi => ?_⟩
    obtain ⟨v, hv, hP⟩ := h p (List.mem_of_getElem? hi)
    exact ⟨v, (hlookup hi).symm.trans hv, hP⟩

/-- The object that an array stands for has distinct keys. -/
theorem nodup_keys_zip (hkeys : (schemaKeys schema).Nodup)
    (hlength : items.length = schema.length) : (keys ((schemaKeys schema).zip items)).Nodup := by
  have hle : (schemaKeys schema).length ≤ items.length := by
    simp [schemaKeys, hlength]
  rwa [keys, List.map_fst_zip hle]

/-- If the fields of an object can be filled one by one, a value that is accepted in every field
stands for a record. -/
theorem exists_hasFields_holds_iff
    (hobj : ∀ fields, HasFields schema RecordField.Accepts (.obj fields) →
      ∃ r, HasFields schema (RecordField.Holds r) (.obj fields))
    (hkeys : (schemaKeys schema).Nodup) :
    (∃ r, HasFields schema (RecordField.Holds r) v) ↔ HasFields schema RecordField.Accepts v := by
  constructor
  · rintro ⟨r, h⟩
    exact h.mono fun p w hw => ⟨p.content r, hw⟩
  · intro h
    cases v with
    | obj fields => exact hobj fields h
    | arr items =>
      -- an array is filled as the object that it stands for
      obtain ⟨hlength, h⟩ := (hasFields_arr_iff_obj hkeys).1 h
      obtain ⟨r, hr⟩ := hobj _ h
      exact ⟨r, (hasFields_arr_iff_obj hkeys).2 ⟨hlength, hr⟩⟩
    | null => exact h.elim
    | bool b => exact h.elim
    | int n => exact h.elim
    | float p b => exact h.elim
    | str s => exact h.elim

/-- In an object with distinct keys that has the fields of a schema, the first pass of a decoder
finds nothing wrong. -/
theorem checkFields_of_hasFields {checkField : String → Json → Except DecodeError Unit}
    (hkeys : (keys fields).Nodup) (h : HasFields schema P (.obj fields))
    (hknown : ∀ p ∈ schema, ∀ v, fields.lookup p.key = some v → P p v →
      checkField p.key v = .ok ())
    (hunknown : ∀ key ∉ schemaKeys schema, ∀ v, checkField key v = .ok ()) :
    checkFields checkField fields = .ok () := by
  apply checkFields_eq_ok_iff.2
  rintro ⟨key, v⟩ hmem
  by_cases hkey : key ∈ schemaKeys schema
  · obtain ⟨p, hp, rfl⟩ := List.mem_map.1 hkey
    obtain ⟨w, hw, hP⟩ := h p hp
    -- with distinct keys, the entry is the one that its key finds
    obtain rfl : w = v := by
      rw [lookup_eq_some_of_mem hkeys hmem, Option.some.injEq] at hw
      exact hw.symm
    exact hknown p hp w hw hP
  · exact hunknown key hkey v

end TargetAbi.Json
