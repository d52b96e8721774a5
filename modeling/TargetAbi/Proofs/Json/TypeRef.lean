import TargetAbi.Json.Decoding
import TargetAbi.Proofs.Json.RoundTrip

/-!
# Type references in JSON

Decoding undoes encoding for type references of any depth (`ofJson_toJson`), and a type reference is
read back from its text whatever characters its tag has, so different type references have different
texts (`compact_read_back`).
-/

set_option autoImplicit false

namespace TargetAbi

theorem BasicType.ofJson_toJson (t : BasicType) : BasicType.ofJson t.toJson = .ok t := by
  cases t <;> rfl

namespace TypeRef

/-- Each constructor is an object of one field, and the only value without parts in it is a
string. -/
theorem isExact_toJson (t : TypeRef) : t.toJson.IsExact := by
  induction t with
  | basic type =>
    refine .obj (by simp [Json.keys]) fun f hf => ?_
    rw [List.mem_singleton.1 hf]
    exact .str type.tag
  | pointer target ih =>
    refine .obj (by simp [Json.keys]) fun f hf => ?_
    rw [List.mem_singleton.1 hf]
    exact ih
  | named tag =>
    refine .obj (by simp [Json.keys]) fun f hf => ?_
    rw [List.mem_singleton.1 hf]
    exact .str tag

theorem ofJson_basic (v : Json) :
    ofJson (.obj [("basic", v)]) = (BasicType.ofJson v).map basic := by
  rw [ofJson, if_pos rfl]

theorem ofJson_pointer (v : Json) :
    ofJson (.obj [("pointer", v)]) = (ofJson v).map pointer := by
  rw [ofJson, if_neg (by decide), if_pos rfl]

theorem ofJson_named (v : Json) :
    ofJson (.obj [("named", v)]) = v.decodeString.map named := by
  rw [ofJson, if_neg (by decide), if_neg (by decide), if_pos rfl]

theorem ofJson_toJson (t : TypeRef) : ofJson t.toJson = .ok t := by
  induction t with
  | basic type =>
    rw [toJson, ofJson_basic, BasicType.ofJson_toJson]
    rfl
  | pointer target ih =>
    rw [toJson, ofJson_pointer, ih]
    rfl
  | named tag =>
    rw [toJson, ofJson_named]
    rfl

theorem ofText?_compact (t : TypeRef) : Json.ofText? t.toJson.compact = some t.toJson :=
  Json.ofText?_chars .compact (isExact_toJson t)

/-- A type reference is read back from its text, and no other type reference has that text. -/
theorem compact_read_back (t : TypeRef) :
    (Json.ofText? t.toJson.compact).map ofJson = some (.ok t) ∧
      ∀ u : TypeRef, t.toJson.compact = u.toJson.compact → t = u := by
  have hread (u : TypeRef) : (Json.ofText? u.toJson.compact).map ofJson = some (.ok u) := by
    rw [ofText?_compact, Option.map_some, ofJson_toJson]
  refine ⟨hread t, ?_⟩
  intro u htext
  have ht := hread t
  rw [htext, hread u, Option.some.injEq, Except.ok.injEq] at ht
  exact ht.symm

/-- A tag that looks like the encoding of another type, with characters that need escapes. -/
example :
    (pointer (named "\x7b\"basic\":\"void\"\x7d\\\n\x01")).toJson.compact =
      "\x7b\"pointer\":\x7b\"named\":\"\x7b\\\"basic\\\":\\\"void\\\"\x7d\\\\\\n\\u0001\"\x7d\x7d" := by
  decide

end TypeRef

end TargetAbi
