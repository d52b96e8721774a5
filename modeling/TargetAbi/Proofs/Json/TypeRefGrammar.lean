import TargetAbi.Proofs.Json.Names
import TargetAbi.Proofs.Json.TypeRef

/-!
# The grammar of type references in JSON

The decoder of type references accepts the values that the grammar

  `T ::= {"basic": B} | {"pointer": T} | {"named": string}`,
  `B ::= "keyword" | {"keyword": null}`

generates, at any depth, and answers the reference of the derivation (`ofJson_eq_ok_iff_derives`).
A reference has two written forms exactly where it ends in a basic type, so two accepted values
stand for one reference if they differ in the form of that type at most (`accepts_grammar`). All
objects of the grammar have one key, which leaves no room for a key that occurs twice.
-/

set_option autoImplicit false

namespace TargetAbi

/-- The two forms of a basic type: its keyword, and an object that maps the keyword to `null`. -/
inductive BasicType.IsForm (keyword : String) : Json → Prop
  | word : IsForm keyword (.str keyword)
  | object : IsForm keyword (.obj [(keyword, .null)])

/-- The decoder makes no difference between the forms, whether the keyword is one or not. -/
theorem BasicType.IsForm.ofJson_eq {keyword : String} {v : Json} (h : IsForm keyword v) :
    ofJson v = ofJson (.str keyword) := by
  cases h with
  | word => rfl
  | object =>
    simp only [ofJson, Json.decodeChoice]
    cases Json.choose tags keyword with
    | ok t => rfl
    | error e => rfl

theorem BasicType.ofJson_eq_ok_iff_isForm {v : Json} {t : BasicType} :
    ofJson v = .ok t ↔ IsForm t.name v := by
  rw [ofJson_eq_ok_iff]
  constructor
  · rintro (rfl | rfl)
    · exact .word
    · exact .object
  · intro h
    cases h with
    | word => exact Or.inl rfl
    | object => exact Or.inr rfl

namespace TypeRef

variable {v w : Json} {t u : TypeRef}

/-- The grammar generates a value, and the derivation stands for a type reference. -/
inductive Derives : Json → TypeRef → Prop
  | basic {v : Json} {t : BasicType} : BasicType.IsForm t.name v →
      Derives (.obj [("basic", v)]) (basic t)
  | pointer {v : Json} {t : TypeRef} : Derives v t → Derives (.obj [("pointer", v)]) (pointer t)
  | named (tag : String) : Derives (.obj [("named", .str tag)]) (named tag)

/-- Two values that differ at most in the forms of one basic type inside the same pointers. -/
inductive SameButForm : Json → Json → Prop
  | basic {keyword : String} {v w : Json} : BasicType.IsForm keyword v →
      BasicType.IsForm keyword w → SameButForm (.obj [("basic", v)]) (.obj [("basic", w)])
  | pointer {v w : Json} : SameButForm v w →
      SameButForm (.obj [("pointer", v)]) (.obj [("pointer", w)])
  | named (tag : String) :
      SameButForm (.obj [("named", .str tag)]) (.obj [("named", .str tag)])

/-! ## The decoder and the grammar -/

/-- An accepted value is an object with one key. -/
theorem exists_eq_obj_of_ofJson (h : ofJson v = .ok t) : ∃ key w, v = .obj [(key, w)] := by
  unfold ofJson at h
  split at h
  · split at h <;> cases h
  · exact ⟨_, _, rfl⟩
  · cases h
  · cases h

/-- Everything that the decoder does when it accepts a value. -/
theorem ofJson_eq_ok_cases (h : ofJson v = .ok t) :
    (∃ b w, v = .obj [("basic", w)] ∧ t = basic b ∧ BasicType.ofJson w = .ok b) ∨
      (∃ s w, v = .obj [("pointer", w)] ∧ t = pointer s ∧ ofJson w = .ok s) ∨
      ∃ tag, v = .obj [("named", .str tag)] ∧ t = named tag := by
  obtain ⟨key, w, rfl⟩ := exists_eq_obj_of_ofJson h
  by_cases hbasic : key = "basic"
  · subst hbasic
    rw [ofJson_basic] at h
    obtain ⟨b, hb, rfl⟩ := map_eq_ok_iff.1 h
    exact Or.inl ⟨b, w, rfl, rfl, hb⟩
  by_cases hpointer : key = "pointer"
  · subst hpointer
    rw [ofJson_pointer] at h
    obtain ⟨s, hs, rfl⟩ := map_eq_ok_iff.1 h
    exact Or.inr (Or.inl ⟨s, w, rfl, rfl, hs⟩)
  by_cases hnamed : key = "named"
  · subst hnamed
    rw [ofJson_named] at h
    obtain ⟨tag, htag, rfl⟩ := map_eq_ok_iff.1 h
    rw [Json.decodeString_eq_ok_iff.1 htag]
    exact Or.inr (Or.inr ⟨tag, rfl, rfl⟩)
  · rw [ofJson, if_neg hbasic, if_neg hpointer, if_neg hnamed] at h
    cases h

theorem derives_of_ofJson (h : ofJson v = .ok t) : Derives v t := by
  -- on the answer: it has the pointers of the value and, unlike the value, no lists inside
  induction t generalizing v with
  | basic b =>
    rcases ofJson_eq_ok_cases h with ⟨b', w, rfl, ht, hw⟩ | ⟨s, w, -, ht, -⟩ | ⟨tag, -, ht⟩
    · cases ht
      exact .basic (BasicType.ofJson_eq_ok_iff_isForm.1 hw)
    · cases ht
    · cases ht
  | pointer s ih =>
    rcases ofJson_eq_ok_cases h with ⟨b, w, -, ht, -⟩ | ⟨s', w, rfl, ht, hw⟩ | ⟨tag, -, ht⟩
    · cases ht
    · cases ht
      exact .pointer (ih hw)
    · cases ht
  | named tag =>
    rcases ofJson_eq_ok_cases h with ⟨b, w, -, ht, -⟩ | ⟨s, w, -, ht, -⟩ | ⟨tag', rfl, ht⟩
    · cases ht
    · cases ht
    · cases ht
      exact .named tag

theorem ofJson_of_derives (h : Derives v t) : ofJson v = .ok t := by
  induction h with
  | basic hform =>
    rw [ofJson_basic, BasicType.ofJson_eq_ok_iff_isForm.2 hform]
    rfl
  | pointer _ ih =>
    rw [ofJson_pointer, ih]
    rfl
  | named tag =>
    rw [ofJson_named]
    rfl

theorem ofJson_eq_ok_iff_derives : ofJson v = .ok t ↔ Derives v t :=
  ⟨derives_of_ofJson, ofJson_of_derives⟩

/-! ## Two values for one reference -/

theorem Derives.sameButForm (hv : Derives v t) (hw : Derives w t) : SameButForm v w := by
  induction hv generalizing w with
  | basic hform =>
    cases hw with
    | basic hform' => exact .basic hform hform'
  | pointer _ ih =>
    cases hw with
    | pointer hw => exact .pointer (ih hw)
  | named tag =>
    cases hw with
    | named => exact .named tag

theorem ofJson_eq_of_sameButForm (h : SameButForm v w) : ofJson v = ofJson w := by
  induction h with
  | basic hv hw => rw [ofJson_basic, ofJson_basic, hv.ofJson_eq, hw.ofJson_eq]
  | pointer _ ih => rw [ofJson_pointer, ofJson_pointer, ih]
  | named tag => rfl

/-- The decoder accepts exactly the values that the grammar generates and answers the reference of
the derivation. What it answers is read back from its own encoding, and two accepted values have one
answer if and only if they differ at most in the form of the basic type in them. -/
theorem accepts_grammar (v : Json) :
    (∀ t, ofJson v = .ok t ↔ Derives v t) ∧
      (∀ t, ofJson v = .ok t → ofJson t.toJson = .ok t ∧ SameButForm v t.toJson) ∧
      ∀ w t u, ofJson v = .ok t → ofJson w = .ok u → (t = u ↔ SameButForm v w) := by
  refine ⟨fun t => ofJson_eq_ok_iff_derives, ?_, ?_⟩
  · intro t ht
    have hback := ofJson_toJson t
    exact ⟨hback, (derives_of_ofJson ht).sameButForm (derives_of_ofJson hback)⟩
  · intro w t u ht hu
    constructor
    · rintro rfl
      exact (derives_of_ofJson ht).sameButForm (derives_of_ofJson hu)
    · intro h
      rw [ofJson_eq_of_sameButForm h, hu, Except.ok.injEq] at ht
      exact ht.symm

/-- A pointer to `void` with the object form of `void`, and its own encoding with the keyword. -/
theorem accepts_grammar_both_forms :
    let v := Json.obj [("pointer", .obj [("basic", .obj [("void", .null)])])]
    let w := Json.obj [("pointer", .obj [("basic", .str "void")])]
    ofJson v = .ok (pointer (basic .void)) ∧ ofJson w = .ok (pointer (basic .void)) ∧
      (pointer (basic .void)).toJson = w ∧ SameButForm v w := by
  intro v w
  have hv : ofJson v = .ok (pointer (basic .void)) :=
    ((accepts_grammar v).1 _).2 (.pointer (.basic .object))
  have hw : ofJson w = .ok (pointer (basic .void)) :=
    ((accepts_grammar w).1 _).2 (.pointer (.basic .word))
  exact ⟨hv, hw, rfl, ((accepts_grammar v).2.2 w _ _ hv hw).1 rfl⟩

end TypeRef

end TargetAbi
