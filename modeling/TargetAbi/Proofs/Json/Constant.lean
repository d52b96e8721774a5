import TargetAbi.Proofs.Constant.Constructible
import TargetAbi.Proofs.Json.RoundTrip

/-!
# Constants in JSON

The JSON form of a constant holds its kind, the name of its type and its whole word as a number
(`wordForm`). Different constants have different forms (`toJson_injective`), and a form is found
again in its text because the word is an integer of at most 64 bits, which a JSON number keeps
(`isExact_toJson`). So the text loses nothing: two constructible constants have the same text
exactly when they are equal (`json_lossless`).
-/

set_option autoImplicit false

namespace TargetAbi

theorem FloatPrecision.tag_inj {p q : FloatPrecision} (h : p.tag = q.tag) : p = q := by
  revert h
  cases p <;> cases q <;> decide

namespace Constant

/-! ## Forms -/

/-- The form of the word `b` of a constant: the kind of the constant is the only key, and under
`key` stands what names its type. -/
def wordForm (kind key name : String) (b : UInt64) : Json :=
  .obj [(kind, .obj [(key, .str name), ("bits", .nat b.toNat)])]

variable {kind kind' key key' name name' : String} {b b' : UInt64}

theorem isExact_wordForm (hkey : key ≠ "bits") : (wordForm kind key name b).IsExact := by
  refine .obj (by simp [Json.keys]) ?_
  simp only [List.forall_mem_singleton]
  refine .obj (by simp [Json.keys, hkey]) ?_
  simp only [List.forall_mem_cons]
  exact ⟨.str name, Json.isExact_nat b.toNat_lt, by simp⟩

/-- Equal forms have the same kind, the same name and the same word. -/
theorem wordForm_inj (h : wordForm kind key name b = wordForm kind' key' name' b') :
    kind = kind' ∧ name = name' ∧ b = b' := by
  simp only [wordForm, Json.nat, Json.obj.injEq, Json.str.injEq, Json.int.injEq, List.cons.injEq,
    Prod.mk.injEq, Int.natCast_inj, true_and, and_true] at h
  obtain ⟨hkind, ⟨-, hname⟩, hword⟩ := h
  exact ⟨hkind, hname, UInt64.toNat_inj.1 hword⟩

theorem isExact_toJson (c : Constant) : c.toJson.IsExact := by
  cases c with
  | integer t b => exact isExact_wordForm (by decide)
  | float p b => exact isExact_wordForm (by decide)

/-- Constants with the same form are equal: the kind tells integers from floats, and within a kind
the name tells the types apart. -/
theorem toJson_injective : Function.Injective toJson := by
  intro c d h
  cases c with
  | integer t b =>
    cases d with
    | integer u b' =>
      obtain ⟨-, htag, hword⟩ := wordForm_inj h
      exact eq_of_type_of_bits (BasicType.tag_injective htag) hword
    | float q b' =>
      have hkind : "integer" = "float" := (wordForm_inj h).1
      exact absurd hkind (by decide)
  | float p b =>
    cases d with
    | integer u b' =>
      have hkind : "float" = "integer" := (wordForm_inj h).1
      exact absurd hkind (by decide)
    | float q b' =>
      obtain ⟨-, htag, hword⟩ := wordForm_inj h
      rw [FloatPrecision.tag_inj htag, hword]

/-! ## Texts -/

/-- The form of a constant is read back from its text, in either spacing, so no other constant has
the text. -/
theorem chars_toJson_injective (s : Json.Spacing) :
    Function.Injective fun c : Constant => String.ofList (c.toJson.chars s 0) := by
  intro c d (h : String.ofList _ = String.ofList _)
  have hc := Json.ofText?_chars s c.isExact_toJson
  rw [h, Json.ofText?_chars s d.isExact_toJson] at hc
  exact (toJson_injective (Option.some.inj hc)).symm

/-- The text has the extended word of a negative integer, all of its twenty digits. -/
example : (Constant.int32 (-1)).toJson.compact =
    "\x7b\"integer\":\x7b\"ty\":\"int32\",\"bits\":18446744073709551615\x7d\x7d" := by
  decide

/-- The texts of constructible constants, with or without blanks, are equal exactly when the
constants are. That is, when their types and words are equal, of which only the low bits have to be
compared. -/
theorem json_lossless {c d : Constant} (hc : Constructible c) (hd : Constructible d) :
    (c.toJson.compact = d.toJson.compact ↔ c = d) ∧
      (c.toJson.pretty = d.toJson.pretty ↔ c = d) ∧
      (c.toJson.compact = d.toJson.compact ↔ c.type = d.type ∧ c.bits = d.bits) ∧
      (c.toJson.compact = d.toJson.compact ↔
        c.type = d.type ∧ c.lowBits.toNat = d.lowBits.toNat) := by
  have hcompact : c.toJson.compact = d.toJson.compact ↔ c = d :=
    (chars_toJson_injective .compact).eq_iff
  refine ⟨hcompact, (chars_toJson_injective .pretty).eq_iff, ?_, ?_⟩
  · rw [hcompact]
    constructor
    · rintro rfl
      exact ⟨rfl, rfl⟩
    · rintro ⟨htype, hbits⟩
      exact eq_of_type_of_bits htype hbits
  · rw [hcompact]
    constructor
    · rintro rfl
      exact ⟨rfl, rfl⟩
    · rintro ⟨htype, hlow⟩
      exact eq_of_lowBits hc.isNormal hd.isNormal htype hlow

/-- Pairs that a text could confuse: NaNs with different payloads, the two zeros, neighbours beyond
the integers that a double keeps, and constants of different types with the same low bits. -/
theorem json_lossless_near_pairs :
    let differ (c d : Constant) := Constructible c ∧ Constructible d ∧
      c.toJson.compact ≠ d.toJson.compact
    differ (.float32 0x7F800001) (.float32 0x7FC00001) ∧
      differ (.float64 0) (.float64 0x8000000000000000) ∧
      differ (.uns64 0x20000000000000) (.uns64 0x20000000000001) ∧
      differ (.int32 (-1)) (.uns32 0xFFFFFFFF) ∧ differ (.int32 (-1)) (.float32 0xFFFFFFFF) ∧
      differ (.uns32 0xFFFFFFFF) (.float32 0xFFFFFFFF) := by
  intro differ
  have hdiffer {c d : Constant} (hc : Constructible c) (hd : Constructible d) (hne : c ≠ d) :
      differ c d :=
    ⟨hc, hd, fun htext => hne ((json_lossless hc hd).1.1 htext)⟩
  exact ⟨hdiffer (.float32 _) (.float32 _) (by decide),
    hdiffer (.float64 _) (.float64 _) (by decide), hdiffer (.uns64 _) (.uns64 _) (by decide),
    hdiffer (.int32 _) (.uns32 _) (by decide),
    hdiffer (.int32 _) (.float32 _) (by decide), hdiffer (.uns32 _) (.float32 _) (by decide)⟩

end Constant

end TargetAbi
