import Mathlib.Data.List.Nodup

/-!
# Association lists with distinct keys

Looking up a key finds a pair of the list, and where no key occurs twice it finds every pair of the
list.
-/

set_option autoImplicit false

namespace TargetAbi

variable {α β : Type} {l : List (α × β)} {k : α} {v : β}

/-- Keys stay distinct when entries are left out and the order is changed. -/
theorem nodup_keys_of_perm {others l' : List (α × β)} (hperm : (l ++ others).Perm l')
    (hkeys : (l'.map Prod.fst).Nodup) : (l.map Prod.fst).Nodup := by
  have hall : ((l ++ others).map Prod.fst).Nodup := (hperm.map Prod.fst).nodup_iff.2 hkeys
  rw [List.map_append] at hall
  exact hall.of_append_left

variable [BEq α] [LawfulBEq α]

theorem mem_of_lookup_eq_some (h : l.lookup k = some v) : (k, v) ∈ l := by
  obtain ⟨front, back, rfl, -⟩ := List.lookup_eq_some_iff.1 h
  exact List.mem_append_right front List.mem_cons_self

theorem lookup_eq_none_iff_not_mem : l.lookup k = none ↔ k ∉ l.map Prod.fst := by
  rw [List.lookup_eq_none_iff, List.mem_map]
  constructor
  · rintro h ⟨p, hp, rfl⟩
    have hne := h p hp
    rw [bne_self_eq_false] at hne
    cases hne
  · intro h p hp
    rw [bne_iff_ne]
    rintro rfl
    exact h ⟨p, hp, rfl⟩

theorem lookup_eq_some_of_mem (hkeys : (l.map Prod.fst).Nodup) (h : (k, v) ∈ l) :
    l.lookup k = some v := by
  obtain ⟨front, back, rfl⟩ := List.append_of_mem h
  refine List.lookup_eq_some_iff.2 ⟨front, back, rfl, fun p hp => ?_⟩
  rw [List.map_append, List.map_cons, List.nodup_append] at hkeys
  rw [bne_iff_ne]
  rintro rfl
  exact hkeys.2.2 p.1 (List.mem_map_of_mem hp) p.1 List.mem_cons_self rfl

theorem lookup_eq_some_iff_mem (hkeys : (l.map Prod.fst).Nodup) :
    l.lookup k = some v ↔ (k, v) ∈ l :=
  ⟨mem_of_lookup_eq_some, lookup_eq_some_of_mem hkeys⟩

/-- Entries that are added under other keys, and another order, change nothing for a key. -/
theorem lookup_eq_of_perm {others l' : List (α × β)} (hperm : (l ++ others).Perm l')
    (hkeys : (l'.map Prod.fst).Nodup) (hk : k ∉ others.map Prod.fst) :
    l'.lookup k = l.lookup k := by
  ext v
  rw [lookup_eq_some_iff_mem hkeys, lookup_eq_some_iff_mem (nodup_keys_of_perm hperm hkeys),
    ← hperm.mem_iff, List.mem_append]
  constructor
  · rintro (h | h)
    · exact h
    · exact absurd (List.mem_map_of_mem h) hk
  · exact Or.inl

/-- In a list of keys with a list of values, the key at a place finds the value at that place. -/
theorem lookup_zip_eq_getElem? {keys : List α} {values : List β} (hkeys : keys.Nodup) {i : Nat}
    (hi : keys[i]? = some k) : (keys.zip values).lookup k = values[i]? := by
  induction keys generalizing values i with
  | nil => cases hi
  | cons a keys ih =>
    obtain ⟨ha, hrest⟩ := List.nodup_cons.1 hkeys
    cases values with
    | nil => rfl
    | cons v values =>
      cases i with
      | zero =>
        obtain rfl : a = k := by simpa using hi
        rw [List.zip_cons_cons, List.lookup_cons_self]
        rfl
      | succ i =>
        rw [List.getElem?_cons_succ] at hi
        have hne : (k == a) = false := by
          rw [beq_eq_false_iff_ne]
          rintro rfl
          exact ha (List.mem_of_getElem? hi)
        rw [List.zip_cons_cons, List.lookup_cons, hne, List.getElem?_cons_succ]
        exact ih hrest hi

end TargetAbi
