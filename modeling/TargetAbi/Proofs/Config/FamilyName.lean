import TargetAbi.Proofs.Config.Decoding
import TargetAbi.Proofs.LetterCase

/-!
# Reading the name of an operating system family

A family is named by its canonical name or by another spelling of it, in any ASCII case, and by no
other text (`parse_eq_ok_iff_spelling`). The reader of plain texts, the JSON decoder of families and
the decoder of configurations accept the same texts for the same families, and a rejected text is
kept as it was written (`name_readers_agree`).
-/

set_option autoImplicit false

namespace TargetAbi

open Text (IsLowered SameButCase asciiLower_eq_iff asciiLower_eq_asciiLower_iff)

namespace OsFamily

variable {s t : String} {os : OsFamily}

/-- The lower-case spellings of a family, the canonical one first. -/
def spellings : OsFamily → List String
  | windows => ["windows", "win32", "win64"]
  | linux => ["linux"]
  | macos => ["macos", "osx", "darwin"]
  | freebsd => ["freebsd"]
  | openbsd => ["openbsd"]
  | dragonflybsd => ["dragonflybsd"]
  | solaris => ["solaris"]

theorem mem_spellings_iff : s ∈ os.spellings ↔ s = os.name ∨ (s, os) ∈ aliases := by
  cases os <;> simp [spellings, aliases, name]

theorem find?_name_eq_some_iff : all.find? (·.name == s) = some os ↔ s = os.name := by
  constructor
  · intro h
    have hname := List.find?_some h
    exact (eq_of_beq hname).symm
  · rintro rfl
    cases os <;> rfl

/-- A canonical name is not among the further names. -/
theorem lookup_aliases_name (os : OsFamily) : aliases.lookup os.name = none := by
  cases os <;> rfl

theorem ofLowerName?_eq_some_iff : ofLowerName? s = some os ↔ s ∈ os.spellings := by
  have hkeys : (aliases.map Prod.fst).Nodup := by decide
  rw [ofLowerName?, Option.or_eq_some_iff, find?_name_eq_some_iff, lookup_eq_some_iff_mem hkeys,
    mem_spellings_iff]
  constructor
  · rintro (halias | ⟨-, hname⟩)
    · exact Or.inr halias
    · exact Or.inl hname
  · rintro (rfl | halias)
    · exact Or.inr ⟨lookup_aliases_name os, rfl⟩
    · exact Or.inl halias

/-- A text names a family exactly if it is a spelling of the family but for the case of letters. -/
theorem parse_eq_ok_iff_spelling :
    parse s = .ok os ↔
      ∃ spelling ∈ os.spellings, List.Forall₂ IsLowered s.toList spelling.toList := by
  simp only [parse_eq_ok_iff, ofName?, ofLowerName?_eq_some_iff, ← asciiLower_eq_iff]
  simp

theorem ofName?_congr (h : List.Forall₂ SameButCase s.toList t.toList) :
    ofName? s = ofName? t := by
  rw [ofName?, ofName?, asciiLower_eq_asciiLower_iff.2 h]

/-- A name of a family is ASCII. -/
theorem toNat_lt_of_parse (h : parse s = .ok os) {c : Char} (hc : c ∈ s.toList) :
    c.toNat < 128 := by
  have hranges := Text.toNat_of_isAlphanum (isAlphanum_of_ofName? (parse_eq_ok_iff.1 h) hc)
  omega

theorem ofJson_str (s : String) : ofJson (.str s) = (parse s).mapError .unknownOs := by
  show decodeName s = _
  unfold decodeName
  cases parse s with
  | ok os => rfl
  | error e => rfl

end OsFamily

namespace Config

variable {s : String} {fields : List (String × Json)} {wide lp64 : Bool}

/-- What the decoder says about the family of a configuration whose flags are in order. -/
theorem ofJson_obj_of_flags (hkeys : (Json.keys fields).Nodup)
    (hos : fields.lookup "os" = some (.str s))
    (hwide : fields.lookup "is-64bit" = some (.bool wide))
    (hlp64 : fields.lookup "is-lp64" = some (.bool lp64)) :
    ofJson (.obj fields) = (OsFamily.ofJson (.str s)).map (Config.mk · wide lp64) := by
  cases hs : OsFamily.parse s with
  | ok os =>
    rw [OsFamily.ofJson_str, hs]
    exact (ofJson_obj_eq_ok_iff hkeys).2 ⟨⟨s, hos, hs⟩, hwide, hlp64⟩
  | error e =>
    obtain ⟨front, back, hsplit, hfront⟩ := List.lookup_eq_some_iff.1 hos
    have hwrong : checkField "os" (.str s) = .error (.unknownOs e) := by
      show Json.check (OsFamily.ofJson (.str s)) = _
      rw [OsFamily.ofJson_str, hs]
      rfl
    -- the fields before the name are other ones, with values of their kinds
    have hcheck : Json.checkFields checkField fields = .error (.unknownOs e) := by
      rw [hsplit]
      refine Json.checkFields_eq_error ?_ hwrong
      rintro ⟨k, v⟩ hmem
      have hne : k ≠ "os" := (bne_iff_ne.1 (hfront (k, v) hmem)).symm
      have hfield : (k, v) ∈ fields := by
        rw [hsplit]
        exact List.mem_append_left _ hmem
      have hfind := lookup_eq_some_of_mem hkeys hfield
      rw [checkField_eq_ok_iff]
      refine ⟨fun hos => absurd hos hne, ?_⟩
      rintro (rfl | rfl)
      · rw [hwide, Option.some.injEq] at hfind
        exact ⟨wide, Json.decodeBool_eq_ok_iff.2 hfind.symm⟩
      · rw [hlp64, Option.some.injEq] at hfind
        exact ⟨lp64, Json.decodeBool_eq_ok_iff.2 hfind.symm⟩
    rw [OsFamily.ofJson_str, hs, ofJson, hcheck]
    rfl

theorem ofJson_arr_of_flags (s : String) (wide lp64 : Bool) :
    ofJson (.arr [.str s, .bool wide, .bool lp64]) =
      (OsFamily.ofJson (.str s)).map (Config.mk · wide lp64) := by
  rw [ofJson]
  show OsFamily.ofJson (.str s) >>= _ = _
  cases OsFamily.ofJson (.str s) with
  | ok os => rfl
  | error e => rfl

end Config

namespace OsFamily

/-- The ways to name a family agree. A text is accepted exactly if it is a spelling of a family but
for the case of letters, so changes of case do not matter, and a rejected text is kept as it was
written. The JSON decoder of families gives the same result, and so does that of configurations for
the value of their family, wherever it stands among other fields. What is accepted is ASCII; the
family is written by its canonical name, and read back from it. -/
theorem name_readers_agree (s : String) :
    (∀ os, parse s = .ok os ↔
        ∃ spelling ∈ os.spellings, List.Forall₂ IsLowered s.toList spelling.toList) ∧
      (∀ e, parse s = .error e ↔ (∀ os, parse s ≠ .ok os) ∧ e = ⟨s⟩) ∧
      (∀ t : String, List.Forall₂ SameButCase s.toList t.toList →
        ∀ os, parse t = .ok os ↔ parse s = .ok os) ∧
      ofJson (.str s) = (parse s).mapError .unknownOs ∧
      (∀ fields wide lp64, (Json.keys fields).Nodup → fields.lookup "os" = some (.str s) →
        fields.lookup "is-64bit" = some (.bool wide) →
        fields.lookup "is-lp64" = some (.bool lp64) →
          Config.ofJson (.obj fields) = (ofJson (.str s)).map (Config.mk · wide lp64)) ∧
      (∀ wide lp64, Config.ofJson (.arr [.str s, .bool wide, .bool lp64]) =
        (ofJson (.str s)).map (Config.mk · wide lp64)) ∧
      ∀ os, parse s = .ok os → (∀ c ∈ s.toList, c.toNat < 128) ∧
        os.spellings.head? = some os.name ∧ os.toJson = .str os.name ∧
        ofJson os.toJson = .ok os := by
  refine ⟨fun os => parse_eq_ok_iff_spelling, ?_, ?_, ofJson_str s, ?_, ?_, ?_⟩
  · intro e
    simp [parse_eq_error_iff, parse_eq_ok_iff, Option.eq_none_iff_forall_ne_some]
  · intro t ht os
    rw [parse_eq_ok_iff, parse_eq_ok_iff, ofName?_congr ht]
  · intro fields wide lp64 hkeys hos hwide hlp64
    exact Config.ofJson_obj_of_flags hkeys hos hwide hlp64
  · exact Config.ofJson_arr_of_flags s
  · intro os hs
    have hwritten : os.toJson = .str os.name := by rw [toJson, tag_eq_name]
    refine ⟨fun c hc => toNat_lt_of_parse hs hc, ?_, hwritten, ?_⟩
    · cases os <;> rfl
    · rw [hwritten, ofJson_str, parse_eq_ok_iff.2 (ofName?_name os)]
      rfl

/-- An alias in mixed case, as the value of a field among others. -/
theorem name_readers_agree_alias :
    List.Forall₂ SameButCase "OsX".toList "oSx".toList ∧ parse "oSx" = .ok .macos ∧
      Config.ofJson (.obj [("is-lp64", .bool true), ("arch", .null), ("os", .str "OsX"),
        ("is-64bit", .bool true)]) = .ok ⟨.macos, true, true⟩ ∧
      OsFamily.macos.toJson = .str "macos" := by
  obtain ⟨-, -, hcase, -, hconfig, -, haccepted⟩ := name_readers_agree "OsX"
  have hparse : parse "OsX" = .ok .macos := by decide
  have hsame : List.Forall₂ SameButCase "OsX".toList "oSx".toList :=
    asciiLower_eq_asciiLower_iff.1 (by decide)
  exact ⟨hsame, (hcase "oSx" hsame .macos).2 hparse, hconfig _ true true (by decide) rfl rfl rfl,
    (haccepted .macos hparse).2.2.1⟩

/-- A capital outside ASCII is no capital of a name, and stays in the error. -/
example : parse "SOLARİS" = .error ⟨"SOLARİS"⟩ := by
  decide

end OsFamily

end TargetAbi
