import TargetAbi.Layout
import TargetAbi.Proofs.BasicType
import TargetAbi.Layout

/-!
# The text of type references

The text of a reference is that of its innermost type and one star for each pointer
(`text_pointers`). Read from its end, a text gives back a reference: the stars are pointers, and
what is left is a keyword or else a tag (`ofText`). Every text is that of the reference that is
read from it (`text_ofText`), and a reference is read from its own text exactly when its tag, if it
has one, is no keyword and does not end in a star (`ofText_text_eq_iff`). So references whose tags
are like this are told apart by their texts, and by the messages of the errors that are about them
(`text_identifies`).
-/

set_option autoImplicit false

namespace TargetAbi

theorem BasicType.ofKeyword?_eq_none_iff {s : String} :
    ofKeyword? s = none ↔ ∀ b : BasicType, s ≠ b.name := by
  simp only [Option.eq_none_iff_forall_ne_some, ne_eq, ofKeyword?_eq_some_iff]

namespace TypeRef

variable {t u : TypeRef} {P Q : String → Prop}

/-! ## Pointers -/

/-- The innermost type of a reference. -/
def leaf : TypeRef → TypeRef
  | pointer t => t.leaf
  | t => t

/-- The number of pointers around the innermost type. -/
def depth : TypeRef → Nat
  | pointer t => t.depth + 1
  | _ => 0

theorem pointers_succ (n : Nat) (t : TypeRef) : pointers (n + 1) t = pointer (pointers n t) := by
  induction n generalizing t with
  | zero => rfl
  | succ n ih =>
    rw [pointers, ih]
    rfl

/-- A reference is its innermost type with its pointers around it. -/
theorem pointers_depth_leaf (t : TypeRef) : pointers t.depth t.leaf = t := by
  induction t with
  | basic b => rfl
  | pointer t ih =>
    rw [depth, leaf, pointers_succ, ih]
  | named tag => rfl

/-- The innermost type is a basic type or a tag. -/
theorem leaf_eq (t : TypeRef) : (∃ b, t.leaf = basic b) ∨ ∃ tag, t.leaf = named tag := by
  induction t with
  | basic b => exact Or.inl ⟨b, rfl⟩
  | pointer t ih => exact ih
  | named tag => exact Or.inr ⟨tag, rfl⟩

/-- Each pointer adds one star. -/
theorem text_pointers (n : Nat) (t : TypeRef) :
    (pointers n t).text = t.text ++ String.ofList (List.replicate n '*') := by
  induction n with
  | zero => exact String.append_empty.symm
  | succ n ih =>
    rw [pointers_succ, text, ih, String.append_assoc, List.replicate_succ', String.ofList_append]

/-! ## Tags -/

/-- The tag of a reference, if it ends in one, has a property. -/
def TagIs (P : String → Prop) : TypeRef → Prop
  | basic _ => True
  | pointer t => t.TagIs P
  | named tag => P tag

theorem TagIs.mono (hPQ : ∀ tag, P tag → Q tag) (h : t.TagIs P) : t.TagIs Q := by
  induction t with
  | basic b => trivial
  | pointer t ih => exact ih h
  | named tag => exact hPQ tag h

/-- A tag that is told apart from pointers and from basic types. -/
structure IsSeparateTag (tag : String) : Prop where
  getLast?_ne : tag.toList.getLast? ≠ some '*'
  ne_name : ∀ b : BasicType, tag ≠ b.name

/-- A tag like an identifier: there is no star in it, and it is not a keyword. -/
structure IsIdentifierTag (tag : String) : Prop where
  no_star : '*' ∉ tag.toList
  ne_name : ∀ b : BasicType, tag ≠ b.name

theorem IsIdentifierTag.isSeparateTag {tag : String} (h : IsIdentifierTag tag) :
    IsSeparateTag tag :=
  ⟨fun hlast => h.no_star (List.mem_of_getLast? hlast), h.ne_name⟩

theorem isIdentifierTag_vaListTag : IsIdentifierTag vaListTag :=
  ⟨by decide, BasicType.ofKeyword?_eq_none_iff.1 (by decide)⟩

/-! ## Reading a text -/

/-- A basic type for its keyword, and a tag for any other text. -/
def ofLeafText (s : String) : TypeRef :=
  match BasicType.ofKeyword? s with
  | some b => basic b
  | none => named s

/-- The reference that is read from the characters of a text, the last one first. -/
def ofReversed : List Char → TypeRef
  | '*' :: cs => pointer (ofReversed cs)
  | cs => ofLeafText (String.ofList cs.reverse)

/-- The reference that is read from a text. -/
def ofText (s : String) : TypeRef := ofReversed s.toList.reverse

theorem ofLeafText_name (b : BasicType) : ofLeafText b.name = basic b := by
  rw [ofLeafText, BasicType.ofKeyword?_name]

theorem text_ofLeafText (s : String) : (ofLeafText s).text = s := by
  unfold ofLeafText
  split
  · rename_i b hb
    exact (BasicType.ofKeyword?_eq_some_iff.1 hb).symm
  · rfl

/-- A text that ends in a star is a pointer. -/
theorem ofText_append_star (s : String) : ofText (s ++ "*") = pointer (ofText s) := by
  have hreverse : (s ++ "*").toList.reverse = '*' :: s.toList.reverse := by simp
  rw [ofText, hreverse]
  rfl

/-- Any other text is a keyword or a tag. -/
theorem ofText_of_getLast?_ne {s : String} (h : s.toList.getLast? ≠ some '*') :
    ofText s = ofLeafText s := by
  rw [← List.head?_reverse] at h
  unfold ofText ofReversed
  split
  · rename_i hcs
    rw [hcs] at h
    exact absurd rfl h
  · rw [List.reverse_reverse, String.ofList_toList]

/-- Every text is the text of the reference that is read from it. -/
theorem text_ofText (s : String) : (ofText s).text = s := by
  have hreversed (cs : List Char) : (ofReversed cs).text = String.ofList cs.reverse := by
    fun_induction ofReversed cs with
    | case1 cs ih =>
      rw [text, ih, List.reverse_cons, String.ofList_append]
    | case2 cs => exact text_ofLeafText _
  rw [ofText, hreversed, List.reverse_reverse, String.ofList_toList]

theorem ofText_name (b : BasicType) : ofText b.name = basic b := by
  have hlast : b.name.toList.getLast? ≠ some '*' := by cases b <;> decide
  rw [ofText_of_getLast?_ne hlast, ofLeafText_name]

theorem ofText_tag_eq_iff {tag : String} : ofText tag = named tag ↔ IsSeparateTag tag := by
  constructor
  · intro h
    constructor
    · -- a last star would be read as a pointer
      intro hlast
      obtain ⟨front, hfront⟩ := List.getLast?_eq_some_iff.1 hlast
      have htag : tag = String.ofList front ++ "*" := by
        rw [← String.toList_inj, hfront]
        simp
      rw [htag, ofText_append_star] at h
      cases h
    · -- a keyword would be read as its basic type
      rintro b rfl
      rw [ofText_name] at h
      cases h
  · intro h
    have hnone := BasicType.ofKeyword?_eq_none_iff.2 h.ne_name
    rw [ofText_of_getLast?_ne h.getLast?_ne, ofLeafText, hnone]

/-- A reference is read back from its text exactly if its tag is told apart from pointers and from
basic types. -/
theorem ofText_text_eq_iff : ofText t.text = t ↔ t.TagIs IsSeparateTag := by
  induction t with
  | basic b =>
    rw [text, ofText_name]
    exact iff_of_true rfl trivial
  | pointer t ih =>
    rw [text, ofText_append_star, pointer.injEq]
    exact ih
  | named tag => exact ofText_tag_eq_iff

/-- References with such tags are equal if their texts are. -/
theorem eq_of_text_eq (ht : t.TagIs IsSeparateTag) (hu : u.TagIs IsSeparateTag)
    (h : t.text = u.text) : t = u := by
  rw [← ofText_text_eq_iff.2 ht, h, ofText_text_eq_iff.2 hu]

/-- A reference with another tag shares its text with another reference. -/
theorem exists_ne_of_not_tagIs (ht : ¬ t.TagIs IsSeparateTag) : ∃ u, u ≠ t ∧ u.text = t.text :=
  ⟨ofText t.text, fun h => ht (ofText_text_eq_iff.1 h), text_ofText t.text⟩

/-! ## References without an alignment -/

theorem text_eq_of_message_eq (h : NotBasic.message ⟨t⟩ = NotBasic.message ⟨u⟩) :
    t.text = u.text := by
  unfold NotBasic.message at h
  have hfront := (String.append_left_inj _).1 h
  exact (String.append_right_inj _).1 hfront

/-- Every reference but a basic type is refused, and kept in the error. -/
theorem alignmentOfType_eq_error (h : ∀ b, t ≠ basic b) (c : Config) (facts : AbiFacts) :
    alignmentOfType c facts t = .error ⟨t⟩ := by
  cases t with
  | basic b => exact absurd rfl (h b)
  | pointer t => rfl
  | named tag => rfl

theorem vaListType_ne_basic (c : Config) (b : BasicType) : c.vaListType ≠ basic b := by
  unfold Config.vaListType
  split <;> simp

theorem tagIs_vaListType (c : Config) : c.vaListType.TagIs IsIdentifierTag := by
  unfold Config.vaListType
  split
  · exact isIdentifierTag_vaListTag
  · trivial

/-- What the text of a reference says. It is the text of the innermost type, a keyword or a tag,
and a star for each pointer. It tells references apart whose tags are no keywords and have no star
in them, while a keyword or a star at the end of a tag leads to a second reference with the same
text. An alignment is given for basic types; anything else is refused with an error that keeps the
reference and whose message identifies it. The type of a `va_list` is such a reference on every
target, and is refused. -/
theorem text_identifies :
    (∀ t : TypeRef, pointers t.depth t.leaf = t ∧
        ((∃ b, t.leaf = basic b) ∨ ∃ tag, t.leaf = named tag)) ∧
      (∀ n (b : BasicType), (pointers n (basic b)).text =
        b.name ++ String.ofList (List.replicate n '*')) ∧
      (∀ n tag, (pointers n (named tag)).text = tag ++ String.ofList (List.replicate n '*')) ∧
      (∀ t u : TypeRef, t.TagIs IsIdentifierTag → u.TagIs IsIdentifierTag →
        t.text = u.text → t = u) ∧
      (∀ t : TypeRef, ¬ t.TagIs IsSeparateTag → ∃ u, u ≠ t ∧ u.text = t.text) ∧
      (∀ c facts (b : BasicType),
        alignmentOfType c facts (basic b) = .ok (alignmentOf c facts b)) ∧
      (∀ c facts (t : TypeRef), (∀ b, t ≠ basic b) → alignmentOfType c facts t = .error ⟨t⟩) ∧
      (∀ t u : TypeRef, t.TagIs IsIdentifierTag → u.TagIs IsIdentifierTag →
        NotBasic.message ⟨t⟩ = NotBasic.message ⟨u⟩ → t = u) ∧
      ∀ target : Config, target.vaListType.TagIs IsIdentifierTag ∧
        ∀ c facts, alignmentOfType c facts target.vaListType = .error ⟨target.vaListType⟩ := by
  have hseparate {t : TypeRef} (ht : t.TagIs IsIdentifierTag) : t.TagIs IsSeparateTag :=
    ht.mono fun _ => IsIdentifierTag.isSeparateTag
  refine ⟨fun t => ⟨t.pointers_depth_leaf, t.leaf_eq⟩, fun n b => text_pointers n (basic b),
    fun n tag => text_pointers n (named tag), ?_, fun t => exists_ne_of_not_tagIs,
    fun c facts b => rfl, ?_, ?_, ?_⟩
  · intro t u ht hu htext
    exact eq_of_text_eq (hseparate ht) (hseparate hu) htext
  · intro c facts t ht
    exact alignmentOfType_eq_error ht c facts
  · intro t u ht hu hmessage
    exact eq_of_text_eq (hseparate ht) (hseparate hu) (text_eq_of_message_eq hmessage)
  · intro target
    exact ⟨tagIs_vaListType target, alignmentOfType_eq_error (vaListType_ne_basic target)⟩

/-- A tag under two pointers is refused, and no other reference of this kind has its text. -/
theorem text_identifies_nested :
    let node := pointer (pointer (named "node"))
    node.TagIs IsIdentifierTag ∧ node.text = "node**" ∧
      alignmentOfType (.lp64 .linux) (.resolve (.lp64 .linux)) node = .error ⟨node⟩ ∧
      ∀ t : TypeRef, t.TagIs IsIdentifierTag → t.text = "node**" → t = node := by
  intro node
  have htag : IsIdentifierTag "node" :=
    ⟨by decide, BasicType.ofKeyword?_eq_none_iff.1 (by decide)⟩
  have hnode : node.TagIs IsIdentifierTag := htag
  obtain ⟨-, -, -, hinjective, -, -, hrefused, -⟩ := text_identifies
  refine ⟨hnode, rfl, hrefused _ _ node (by simp [node]), ?_⟩
  intro t ht htext
  exact hinjective t node ht hnode htext

end TypeRef

end TargetAbi
