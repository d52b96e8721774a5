import TargetAbi.Json.Reader
import TargetAbi.Proofs.Json.Token

/-!
# Reading written values back

The text of an exact value is read as the value itself, in either spacing (`ofText?_chars`). The two
halves of the reader are taken one by one: the text has the tokens of the value (`ofChars?_chars`),
and from a place where a value may start these lead to the place after the value, whatever brackets
are open and whatever tokens follow (`run_tokens`).
-/

set_option autoImplicit false

namespace TargetAbi.Json

variable {v : Json} {items : List Json} {fields : List (String × Json)} {rest : List Char}

/-! ## From characters to tokens -/

theorem endsNumber_nil : EndsNumber [] := by
  intro c hc
  cases hc

theorem endsNumber_cons {c : Char} (h : isNumberChar c = false) (cs : List Char) :
    EndsNumber (c :: cs) := by
  intro d hd
  cases hd
  exact h

theorem endsNumber_lineBreak (s : Spacing) (depth : Nat) (h : EndsNumber rest) :
    EndsNumber (s.lineBreak depth ++ rest) := by
  cases s with
  | compact => exact h
  | pretty => exact endsNumber_cons (by decide) _

/-- After an item come a comma or what follows the last one. -/
theorem endsNumber_itemChars (s : Spacing) (depth : Nat) (items : List Json)
    (h : EndsNumber rest) : EndsNumber (itemChars s depth items ++ rest) := by
  cases items with
  | nil => exact h
  | cons v vs => exact endsNumber_cons (by decide) _

theorem endsNumber_fieldChars (s : Spacing) (depth : Nat) (fields : List (String × Json))
    (h : EndsNumber rest) : EndsNumber (fieldChars s depth fields ++ rest) := by
  cases fields with
  | nil => exact h
  | cons f fs => exact endsNumber_cons (by decide) _

/-- `v` is written so that its tokens are found, whatever follows that ends a number. -/
def HasTokens (s : Spacing) (v : Json) : Prop :=
  ∀ depth rest, EndsNumber rest →
    Token.ofChars? (v.chars s depth ++ rest) = (Token.ofChars? rest).map (v.tokens ++ ·)

theorem ofChars?_itemChars {s : Spacing} (hitems : ∀ v ∈ items, HasTokens s v) (depth : Nat)
    (h : EndsNumber rest) :
    Token.ofChars? (itemChars s depth items ++ rest) =
      (Token.ofChars? rest).map (itemTokens items ++ ·) := by
  induction items with
  | nil => simp [itemChars, itemTokens]
  | cons v vs ih =>
    have hv := hitems v List.mem_cons_self depth _ (endsNumber_itemChars s depth vs h)
    have hvs := ih fun w hw => hitems w (List.mem_cons_of_mem v hw)
    simp [itemChars, itemTokens, hv, hvs, Function.comp_def]

theorem ofChars?_fieldChars {s : Spacing} (hfields : ∀ f ∈ fields, HasTokens s f.2) (depth : Nat)
    (h : EndsNumber rest) :
    Token.ofChars? (fieldChars s depth fields ++ rest) =
      (Token.ofChars? rest).map (fieldTokens fields ++ ·) := by
  induction fields with
  | nil => simp [fieldChars, fieldTokens]
  | cons f fs ih =>
    obtain ⟨k, v⟩ := f
    have hv := hfields (k, v) List.mem_cons_self depth _ (endsNumber_fieldChars s depth fs h)
    have hfs := ih fun g hg => hfields g (List.mem_cons_of_mem (k, v) hg)
    simp [fieldChars, fieldTokens, hv, hfs, Function.comp_def]

/-- The text of an exact value has the tokens of the value. -/
theorem ofChars?_chars (s : Spacing) (hv : IsExact v) : HasTokens s v := by
  induction hv with
  | null =>
    intro depth rest _
    exact ofChars?_of_first? rfl rfl (Nat.le_add_right _ 3)
  | bool b =>
    intro depth rest _
    cases b with
    | true => exact ofChars?_of_first? rfl rfl (Nat.le_add_right _ 3)
    | false => exact ofChars?_of_first? rfl rfl (Nat.le_add_right _ 4)
  | @int n hleast hmost =>
    intro depth rest hrest
    have hnumber := number?_signedDecimal hleast hmost
    refine ofChars?_number isNumberChar_of_mem_signedDecimal hnumber ?_ hrest
    intro hnil
    have hnil : (Numeral.signedDecimal n).toList = [] := hnil
    rw [hnil] at hnumber
    cases hnumber
  | str t =>
    intro depth rest _
    exact ofChars?_stringChars t rest
  | @arr items _ ih =>
    intro depth rest hrest
    cases items with
    | nil => simp [chars, tokens, Function.comp_def]
    | cons v vs =>
      have hend := endsNumber_lineBreak s depth
        (endsNumber_cons (c := ']') (by decide) rest)
      have hvs := ofChars?_itemChars (fun w hw => ih w (List.mem_cons_of_mem v hw)) (depth + 1) hend
      have hv := ih v List.mem_cons_self (depth + 1) _ (endsNumber_itemChars s (depth + 1) vs hend)
      simp [chars, tokens, hv, hvs, Function.comp_def]
  | @obj fields _ _ ih =>
    intro depth rest hrest
    cases fields with
    | nil => simp [chars, tokens, Function.comp_def]
    | cons f fs =>
      obtain ⟨k, v⟩ := f
      have hend := endsNumber_lineBreak s depth
        (endsNumber_cons (c := '\x7d') (by decide) rest)
      have hfs := ofChars?_fieldChars (fun g hg => ih g (List.mem_cons_of_mem (k, v) hg))
        (depth + 1) hend
      have hv := ih (k, v) List.mem_cons_self (depth + 1) _
        (endsNumber_fieldChars s (depth + 1) fs hend)
      simp [chars, tokens, hv, hfs, Function.comp_def]

/-! ## From tokens to values -/

theorem not_mem_keys_of_nodup {fs : List (String × Json)} {k : String}
    (h : (keys (fields ++ (k, v) :: fs)).Nodup) : k ∉ keys fields := by
  rw [keys, List.map_append, List.nodup_append] at h
  intro hmem
  exact h.2.2 k hmem k List.mem_cons_self rfl

/-- A key that an object does not have goes to its end. -/
theorem put_of_not_mem_keys {key : String} (value : Json) (h : key ∉ keys fields) :
    put key value fields = fields ++ [(key, value)] := by
  induction fields with
  | nil => rfl
  | cons f fs ih =>
    obtain ⟨k, w⟩ := f
    rw [keys, List.map_cons, List.mem_cons, not_or] at h
    rw [put, if_neg (Ne.symm h.1), ih h.2, List.cons_append]

/-- From a place where a value may start, the tokens of `v` lead to the place after `v`. -/
def RunsTo (v : Json) : Prop :=
  ∀ stack ts, ReadState.run ⟨stack, .value⟩ (v.tokens ++ ts) = ReadState.run ⟨stack, .after v⟩ ts

/-- The first item of an array may start where any value may. -/
theorem run_firstItem (stack : List Frame) (v : Json) (ts : List Token) :
    ReadState.run ⟨stack, .firstItem⟩ (v.tokens ++ ts) =
      ReadState.run ⟨.array [] :: stack, .value⟩ (v.tokens ++ ts) := by
  cases v with
  | null | bool b | int n | float p bits | str s => rfl
  | arr items => cases items <;> rfl
  | obj fields => cases fields <;> rfl

theorem run_itemTokens {vs : List Json} (hvs : ∀ w ∈ vs, RunsTo w) (stack : List Frame)
    (items : List Json) (v : Json) (ts : List Token) :
    ReadState.run ⟨.array items :: stack, .after v⟩ (itemTokens vs ++ .closeArray :: ts) =
      ReadState.run ⟨stack, .after (.arr (items ++ v :: vs))⟩ ts := by
  -- by induction on the items that are left, the array so far gaining one at each comma
  induction vs generalizing items v with
  | nil => rfl
  | cons w vs ih =>
    have hw := hvs w List.mem_cons_self
    have hrest := ih (fun x hx => hvs x (List.mem_cons_of_mem w hx)) (items ++ [v]) w
    calc ReadState.run ⟨.array items :: stack, .after v⟩
          (itemTokens (w :: vs) ++ .closeArray :: ts)
        = ReadState.run ⟨.array (items ++ [v]) :: stack, .value⟩
            (w.tokens ++ (itemTokens vs ++ .closeArray :: ts)) := by
          rw [itemTokens, List.cons_append, List.append_assoc]
          rfl
      _ = ReadState.run ⟨.array (items ++ [v]) :: stack, .after w⟩
            (itemTokens vs ++ .closeArray :: ts) := hw _ _
      _ = ReadState.run ⟨stack, .after (.arr (items ++ v :: w :: vs))⟩ ts := by
          rw [hrest, List.append_assoc]
          rfl

theorem run_fieldTokens {fs : List (String × Json)} (hfs : ∀ f ∈ fs, RunsTo f.2)
    (stack : List Frame) (fields : List (String × Json)) (k : String) (v : Json)
    (hkeys : (keys (fields ++ (k, v) :: fs)).Nodup) (ts : List Token) :
    ReadState.run ⟨.object fields k :: stack, .after v⟩ (fieldTokens fs ++ .closeObject :: ts) =
      ReadState.run ⟨stack, .after (.obj (fields ++ (k, v) :: fs))⟩ ts := by
  -- as above; that the keys are distinct makes each field a new one
  induction fs generalizing fields k v with
  | nil =>
    have hput := put_of_not_mem_keys v (not_mem_keys_of_nodup hkeys)
    rw [← hput]
    rfl
  | cons f fs ih =>
    obtain ⟨l, w⟩ := f
    have hput := put_of_not_mem_keys v (not_mem_keys_of_nodup hkeys)
    have hw := hfs (l, w) List.mem_cons_self
    have hrest := ih (fun g hg => hfs g (List.mem_cons_of_mem (l, w) hg)) (fields ++ [(k, v)]) l w
      (by rwa [List.append_assoc])
    calc ReadState.run ⟨.object fields k :: stack, .after v⟩
          (fieldTokens ((l, w) :: fs) ++ .closeObject :: ts)
        = ReadState.run ⟨.object (put k v fields) l :: stack, .value⟩
            (w.tokens ++ (fieldTokens fs ++ .closeObject :: ts)) := by
          rw [fieldTokens, List.cons_append, List.cons_append, List.cons_append,
            List.append_assoc]
          rfl
      _ = ReadState.run ⟨.object (put k v fields) l :: stack, .after w⟩
            (fieldTokens fs ++ .closeObject :: ts) := hw _ _
      _ = ReadState.run ⟨stack, .after (.obj (fields ++ (k, v) :: (l, w) :: fs))⟩ ts := by
          rw [hput, hrest, List.append_assoc]
          rfl

/-- The reader gets from the tokens of an exact value to the value. -/
theorem run_tokens (hv : IsExact v) : RunsTo v := by
  induction hv with
  | null | bool b | int | str s =>
    intro stack ts
    rfl
  | @arr items _ ih =>
    intro stack ts
    cases items with
    | nil => rfl
    | cons v vs =>
      have hv := ih v List.mem_cons_self
      have hvs := run_itemTokens (fun w hw => ih w (List.mem_cons_of_mem v hw)) stack [] v ts
      rw [tokens, List.cons_append, List.append_assoc, List.append_assoc]
      exact ((run_firstItem stack v _).trans (hv _ _)).trans hvs
  | @obj fields hkeys _ ih =>
    intro stack ts
    cases fields with
    | nil => rfl
    | cons f fs =>
      obtain ⟨k, v⟩ := f
      have hv := ih (k, v) List.mem_cons_self
      have hfs := run_fieldTokens (fun g hg => ih g (List.mem_cons_of_mem (k, v) hg)) stack [] k v
        hkeys ts
      rw [tokens, List.cons_append, List.cons_append, List.cons_append, List.append_assoc,
        List.append_assoc]
      exact (hv _ _).trans hfs

/-! ## Texts -/

/-- An exact value is read back from each of its texts. -/
theorem ofText?_chars (s : Spacing) (hv : IsExact v) :
    ofText? (String.ofList (v.chars s 0)) = some v := by
  have hchars := ofChars?_chars s hv 0 [] endsNumber_nil
  have hrun := run_tokens hv [] []
  rw [List.append_nil, Token.ofChars?, Option.map_some, List.append_nil] at hchars
  rw [List.append_nil] at hrun
  rw [ofText?, String.toList_ofList, hchars, Option.bind_some, ofTokens?, hrun]
  rfl

end TargetAbi.Json
