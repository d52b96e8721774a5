import TargetAbi.BasicType
import TargetAbi.Proofs.Lines
import TargetAbi.Proofs.Lookup

/-!
# Names of basic types

A text names a type if it is one of the spellings of the type: its keyword, and for some types a
short name (`mem_spellings_iff`). No text names two types, and `BasicType.parse` accepts exactly the
names (`parse_eq_ok_iff`, `parse_eq_error_iff`).
-/

set_option autoImplicit false

namespace TargetAbi.BasicType

variable {s : String} {t u : BasicType} {e : UnknownName}

/-- The spellings of a type, the keyword first. -/
def spellings : BasicType → List String
  | void => ["void"]
  | bool => ["bool"]
  | char => ["char"]
  | wchar => ["wchar"]
  | dchar => ["dchar"]
  | int8 => ["int8", "i8"]
  | uns8 => ["uns8", "u8"]
  | int16 => ["int16", "i16"]
  | uns16 => ["uns16", "u16"]
  | int32 => ["int32", "i32"]
  | uns32 => ["uns32", "u32"]
  | int64 => ["int64", "i64"]
  | uns64 => ["uns64", "u64"]
  | int128 => ["int128", "i128"]
  | uns128 => ["uns128", "u128"]
  | float32 => ["float32", "f32"]
  | float64 => ["float64", "f64"]
  | float80 => ["float80", "f80"]
  | imaginary32 => ["imaginary32"]
  | imaginary64 => ["imaginary64"]
  | imaginary80 => ["imaginary80"]
  | complex32 => ["complex32"]
  | complex64 => ["complex64"]
  | complex80 => ["complex80"]

/-- `s` names the type `t`: it is a spelling of `t` as it stands, in this case of letters and with
nothing around it. -/
def IsNamed (t : BasicType) (s : String) : Prop := s ∈ t.spellings

instance (t : BasicType) (s : String) : Decidable (t.IsNamed s) :=
  inferInstanceAs (Decidable (s ∈ t.spellings))

/-- A spelling is the keyword or a short name. -/
theorem mem_spellings_iff : s ∈ t.spellings ↔ s = t.name ∨ (s, t) ∈ aliases := by
  cases t <;> simp [spellings, name, aliases]

theorem isNamed_name (t : BasicType) : t.IsNamed t.name :=
  mem_spellings_iff.2 (Or.inl rfl)

/-- A keyword is on one line. -/
theorem isLine_name (t : BasicType) : Text.IsLine t.name := by
  cases t <;> decide

theorem ofKeyword?_eq_some_iff : ofKeyword? s = some t ↔ s = t.name := by
  constructor
  · intro h
    have hname := List.find?_some h
    exact (eq_of_beq hname).symm
  · rintro rfl
    exact ofKeyword?_name t

/-- The short names are distinct, so the list is a map. -/
theorem lookup_aliases_eq_some_iff : aliases.lookup s = some t ↔ (s, t) ∈ aliases :=
  lookup_eq_some_iff_mem (by decide)

/-- A keyword is not a short name, not even for its own type. -/
theorem lookup_aliases_name (t : BasicType) : aliases.lookup t.name = none := by
  cases t <;> decide

theorem ofName?_eq_some_iff : ofName? s = some t ↔ t.IsNamed s := by
  rw [IsNamed, mem_spellings_iff, ofName?, Option.or_eq_some_iff, ofKeyword?_eq_some_iff,
    lookup_aliases_eq_some_iff]
  constructor
  · rintro (halias | ⟨-, hname⟩)
    · exact Or.inr halias
    · exact Or.inl hname
  · rintro (rfl | halias)
    · exact Or.inr ⟨lookup_aliases_name t, rfl⟩
    · exact Or.inl halias

/-- A text names at most one type. -/
theorem IsNamed.unique (ht : t.IsNamed s) (hu : u.IsNamed s) : t = u := by
  have hname := ofName?_eq_some_iff.2 ht
  rw [ofName?_eq_some_iff.2 hu] at hname
  exact (Option.some.inj hname).symm

theorem parse_eq_ok_iff : parse s = .ok t ↔ t.IsNamed s := by
  rw [← ofName?_eq_some_iff, parse]
  cases ofName? s with
  | none => simp
  | some u => simp

/-- A text that names no type is rejected and kept as it was written. -/
theorem parse_eq_error_iff :
    parse s = .error e ↔ (∀ t : BasicType, ¬ t.IsNamed s) ∧ e = ⟨.type, s⟩ := by
  simp only [← ofName?_eq_some_iff, parse]
  cases ofName? s with
  | none => simp [eq_comm]
  | some u => simp

end TargetAbi.BasicType
