import TargetAbi.Json.Decoding
import TargetAbi.Proofs.Platform
import TargetAbi.Proofs.Result

/-!
# Steps of JSON decoders

When the steps that the decoders of records share have a result.
-/

set_option autoImplicit false

namespace TargetAbi

namespace Json

variable {v : Json} {fields : List (String × Json)}

theorem decodeString_eq_ok_iff {s : String} : v.decodeString = .ok s ↔ v = .str s := by
  constructor
  · intro h
    unfold decodeString at h
    split at h
    · cases h
      rfl
    · cases h
  · rintro rfl
    rfl

theorem decodeBool_eq_ok_iff {b : Bool} : v.decodeBool = .ok b ↔ v = .bool b := by
  constructor
  · intro h
    unfold decodeBool at h
    split at h
    · cases h
      rfl
    · cases h
  · rintro rfl
    rfl

theorem decodeNat_eq_ok_iff {limit n : Nat} {expected : Expected} :
    v.decodeNat limit expected = .ok n ↔ n < limit ∧ v = .nat n := by
  constructor
  · intro h
    unfold decodeNat at h
    split at h
    · rename_i m
      split at h
      · rename_i hm
        cases h
        refine ⟨by omega, ?_⟩
        rw [nat, Int.toNat_of_nonneg hm.1]
      · cases h
    · cases h
  · rintro ⟨hn, rfl⟩
    have hrange : (0 : Int) ≤ n ∧ (n : Int) < limit := by omega
    simp only [nat, decodeNat, if_pos hrange, Int.toNat_natCast]

theorem decodeWord32_eq_ok_iff {x : UInt32} : v.decodeWord32 = .ok x ↔ v = .nat x.toNat := by
  rw [decodeWord32, map_eq_ok_iff]
  constructor
  · rintro ⟨n, hn, rfl⟩
    obtain ⟨hlt, hv⟩ := decodeNat_eq_ok_iff.1 hn
    rwa [UInt32.toNat_ofNat_of_lt' hlt]
  · rintro rfl
    exact ⟨x.toNat, decodeNat_eq_ok_iff.2 ⟨x.toNat_lt_size, rfl⟩, UInt32.ofNat_toNat⟩

theorem decodeWord64_eq_ok_iff {x : UInt64} : v.decodeWord64 = .ok x ↔ v = .nat x.toNat := by
  rw [decodeWord64, map_eq_ok_iff]
  constructor
  · rintro ⟨n, hn, rfl⟩
    obtain ⟨hlt, hv⟩ := decodeNat_eq_ok_iff.1 hn
    rwa [UInt64.toNat_ofNat_of_lt' hlt]
  · rintro rfl
    exact ⟨x.toNat, decodeNat_eq_ok_iff.2 ⟨x.toNat_lt_size, rfl⟩, UInt64.ofNat_toNat⟩

theorem choose_eq_ok_iff {α : Type} {choices : List (String × α)} {tag : String} {a : α} :
    choose choices tag = .ok a ↔ choices.lookup tag = some a := by
  unfold choose
  cases choices.lookup tag with
  | none => simp
  | some b => simp

/-- A choice without payloads is its tag or an object that maps the tag to `null`. -/
theorem decodeChoice_eq_ok_iff {α : Type} {choices : List (String × α)} {a : α} :
    decodeChoice choices v = .ok a ↔
      ∃ tag, choices.lookup tag = some a ∧ (v = .str tag ∨ v = .obj [(tag, .null)]) := by
  simp only [← choose_eq_ok_iff]
  constructor
  · intro h
    unfold decodeChoice at h
    split at h
    · rename_i s
      exact ⟨s, h, Or.inl rfl⟩
    · rename_i k w
      split at h
      · cases h
      · rename_i b hb
        exact ⟨k, hb.trans h, Or.inr rfl⟩
      · cases h
    · cases h
    · cases h
  · rintro ⟨tag, htag, rfl | rfl⟩
    · exact htag
    · simp only [decodeChoice, htag]

theorem check_eq_ok_iff {α : Type} {r : Except DecodeError α} :
    check r = .ok () ↔ ∃ a, r = .ok a := by
  simp [check, map_eq_ok_iff]

theorem checkFields_eq_ok_iff {checkField : String → Json → Except DecodeError Unit} :
    checkFields checkField fields = .ok () ↔ ∀ f ∈ fields, checkField f.1 f.2 = .ok () := by
  induction fields with
  | nil => simp [checkFields]
  | cons f fields ih =>
    obtain ⟨k, v⟩ := f
    rw [checkFields, List.forall_mem_cons]
    cases checkField k v with
    | ok u => simpa using ih
    | error e => simp

/-- The first field with a wrong value is the error. -/
theorem checkFields_eq_error {checkField : String → Json → Except DecodeError Unit}
    {front back : List (String × Json)} {name : String} {e : DecodeError}
    (hfront : ∀ f ∈ front, checkField f.1 f.2 = .ok ()) (he : checkField name v = .error e) :
    checkFields checkField (front ++ (name, v) :: back) = .error e := by
  induction front with
  | nil => rw [List.nil_append, checkFields, he]
  | cons f front ih =>
    obtain ⟨k, w⟩ := f
    obtain ⟨hf, hrest⟩ := List.forall_mem_cons.1 hfront
    rw [List.cons_append, checkFields, hf]
    exact ih hrest

theorem field_eq_ok_iff {α : Type} {name : String} {decode : Json → Except DecodeError α} {a : α} :
    field fields name decode = .ok a ↔ ∃ v, fields.lookup name = some v ∧ decode v = .ok a := by
  unfold field
  cases fields.lookup name with
  | none => simp
  | some v => simp

theorem element_eq_ok_iff {α : Type} {items : List Json} {name : String} {size i : Nat}
    {decode : Json → Except DecodeError α} {a : α} :
    element items name size i decode = .ok a ↔ ∃ v, items[i]? = some v ∧ decode v = .ok a := by
  unfold element
  cases items[i]? with
  | none => simp
  | some v => simp

theorem checkLength_eq_ok_iff {items : List Json} {size : Nat} {u : Unit} :
    checkLength items size = .ok u ↔ items.length ≤ size := by
  unfold checkLength
  split
  · rename_i h
    simp [h]
  · rename_i h
    simp [Nat.le_of_not_lt h]

end Json

theorem OsFamily.ofJson_eq_ok_iff {v : Json} {os : OsFamily} :
    OsFamily.ofJson v = .ok os ↔ ∃ name, v = .str name ∧ OsFamily.parse name = .ok os := by
  refine bind_eq_ok_iff.trans ?_
  simp only [Json.decodeString_eq_ok_iff, OsFamily.decodeName_eq_ok_iff]

end TargetAbi
