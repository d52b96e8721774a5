import TargetAbi.Proofs.Lookup
import TargetAbi.Toml.Document

/-!
# Keys of a document

No key stands twice in a document. Each edit of a table keeps its keys distinct, an edit of a table
below it changes none of them (`nodup_keys_within`), and so every statement keeps the keys of the
document distinct (`Draft.nodup_keys_step`) and all of them together do (`nodup_keys_ofText?`).
-/

set_option autoImplicit false

namespace TargetAbi.Toml

namespace Entries

variable {es es' : Entries} {name : String} {span : Span} {node : Node}

/-- The keys of a table, in order. -/
def keys (es : Entries) : List String := es.map Prod.fst

theorem find?_eq_none_iff : es.find? name = none ↔ name ∉ es.keys :=
  lookup_eq_none_iff_not_mem

theorem find?_eq_some_of_mem (hkeys : es.keys.Nodup) (h : (name, span, node) ∈ es) :
    es.find? name = some (span, node) :=
  lookup_eq_some_of_mem hkeys h

/-- The key `name` has a scalar as its value. -/
def Has (es : Entries) (name : String) (value : Scalar) : Prop :=
  ∃ span, es.find? name = some (span, .scalar value)

theorem Has.eq_of_find? {value : Scalar} (h : es.Has name value)
    (hfind : es.find? name = some (span, node)) : node = .scalar value := by
  obtain ⟨span', hscalar⟩ := h
  rw [hfind, Option.some.injEq, Prod.mk.injEq] at hscalar
  exact hscalar.2

/-! ## Edits of a table -/

theorem keys_replace (es : Entries) (name : String) (span : Span) (node : Node) :
    (es.replace name span node).keys = es.keys := by
  rw [keys, keys, replace, List.map_map]
  apply List.map_congr_left
  rintro ⟨k, s, v⟩ -
  by_cases hk : k = name
  · simp [hk]
  · simp [hk]

theorem keys_extendTo (es : Entries) (name : String) (stop : Nat) :
    (es.extendTo name stop).keys = es.keys := by
  rw [keys, keys, extendTo, List.map_map]
  apply List.map_congr_left
  rintro ⟨k, s, v⟩ -
  by_cases hk : k = name
  · simp [hk]
  · simp [hk]

theorem nodup_keys_append (hkeys : es.keys.Nodup) (h : es.find? name = none) (span : Span)
    (node : Node) : (keys (es ++ [(name, span, node)])).Nodup := by
  have hnew := find?_eq_none_iff.1 h
  rw [keys, List.map_append, List.nodup_append]
  refine ⟨hkeys, List.nodup_singleton name, ?_⟩
  rintro k hk l hl rfl
  rw [List.mem_singleton.1 hl] at hk
  exact hnew hk

/-- A key that is taken out may be put back at the end. -/
theorem nodup_keys_move (hkeys : es.keys.Nodup) (name : String) (span : Span) (node : Node) :
    (keys (es.erase name ++ [(name, span, node)])).Nodup := by
  apply nodup_keys_append
  · exact hkeys.sublist (List.filter_sublist.map Prod.fst)
  · rw [find?_eq_none_iff, keys, List.mem_map]
    rintro ⟨e, he, rfl⟩
    simp [erase] at he

theorem nodup_keys_add? (hkeys : es.keys.Nodup) (h : es.add? name span node = some es') :
    es'.keys.Nodup := by
  unfold add? at h
  cases hfind : es.find? name with
  | some entry =>
    rw [hfind] at h
    cases h
  | none =>
    rw [hfind] at h
    cases h
    exact nodup_keys_append hkeys hfind span node

/-- An edit at the end of a path keeps the keys distinct. Only the table at the end gets other keys
from the edit; the one where the path starts gets at most the first part of the path as a new
key. -/
theorem nodup_keys_within {created : Origin} {admits : Origin → Bool}
    {edit : Origin → Entries → Option Entries} {path : List Key} {origin : Origin}
    (hedit : ∀ origin es es', es.keys.Nodup → edit origin es = some es' → es'.keys.Nodup)
    (hkeys : es.keys.Nodup) (h : within created admits edit path origin es = some es') :
    es'.keys.Nodup := by
  cases path with
  | nil => exact hedit origin es es' hkeys h
  | cons k path =>
    rw [within] at h
    split at h
    · rename_i hfind
      obtain ⟨sub, -, rfl⟩ := Option.map_eq_some_iff.1 h
      exact nodup_keys_append hkeys hfind k.span _
    · split at h
      · obtain ⟨sub, -, rfl⟩ := Option.map_eq_some_iff.1 h
        rwa [keys_replace]
      · cases h
    · split at h
      · obtain ⟨sub, -, rfl⟩ := Option.map_eq_some_iff.1 h
        rwa [keys_replace]
      · cases h
    · cases h

theorem nodup_keys_assign {a : Assignment} (hkeys : es.keys.Nodup)
    (h : es.assign a = some es') : es'.keys.Nodup := by
  refine nodup_keys_within ?_ hkeys h
  intro origin es es' hkeys hedit
  split at hedit
  · exact nodup_keys_add? hkeys hedit
  · cases hedit

theorem nodup_keys_openTable {key : Key} (hkeys : es.keys.Nodup)
    (h : es.openTable key span = some es') : es'.keys.Nodup := by
  unfold openTable at h
  split at h
  · rename_i hfind
    cases h
    exact nodup_keys_append hkeys hfind span _
  · cases h
    exact nodup_keys_move hkeys key.name span _
  · cases h

theorem nodup_keys_openElement {key : Key} (hkeys : es.keys.Nodup)
    (h : es.openElement key span = some es') : es'.keys.Nodup := by
  unfold openElement at h
  split at h
  · rename_i hfind
    cases h
    exact nodup_keys_append hkeys hfind span _
  · cases h
    rwa [keys_replace]
  · cases h

end Entries

/-! ## Statements -/

namespace Draft

variable {d d' : Draft}

theorem nodup_keys_assign {a : Assignment} (hkeys : d.document.entries.keys.Nodup)
    (h : d.assign a = some d') : d'.document.entries.keys.Nodup := by
  obtain ⟨es, hes, rfl⟩ := Option.map_eq_some_iff.1 h
  have hnodup : es.keys.Nodup :=
    Entries.nodup_keys_within (fun _ _ _ => Entries.nodup_keys_assign) hkeys hes
  -- the three places where the current table may be
  split
  · exact hnodup
  · rwa [Entries.keys_extendTo]
  · exact hnodup

theorem nodup_keys_openAt {path : List Key} {key : Key} {edit : Entries → Option Entries}
    (hedit : ∀ es es', es.keys.Nodup → edit es = some es' → es'.keys.Nodup)
    (hkeys : d.document.entries.keys.Nodup) (h : d.openAt path key edit = some d') :
    d'.document.entries.keys.Nodup := by
  obtain ⟨es, hes, rfl⟩ := Option.map_eq_some_iff.1 h
  exact Entries.nodup_keys_within (fun _ => hedit) hkeys hes

/-- A statement keeps the keys of the document distinct. -/
theorem nodup_keys_step {s : Statement} (hkeys : d.document.entries.keys.Nodup)
    (h : d.step s = some d') : d'.document.entries.keys.Nodup := by
  cases s with
  | assign a => exact nodup_keys_assign hkeys h
  | table path key span =>
    exact nodup_keys_openAt (fun _ _ => Entries.nodup_keys_openTable) hkeys h
  | element path key span =>
    exact nodup_keys_openAt (fun _ _ => Entries.nodup_keys_openElement) hkeys h

theorem nodup_keys_foldlM {statements : List Statement} (hkeys : d.document.entries.keys.Nodup)
    (h : statements.foldlM step d = some d') : d'.document.entries.keys.Nodup := by
  induction statements generalizing d with
  | nil =>
    cases h
    exact hkeys
  | cons s statements ih =>
    rw [List.foldlM_cons] at h
    obtain ⟨next, hstep, hrest⟩ := Option.bind_eq_some_iff.1 h
    exact ih (nodup_keys_step hkeys hstep) hrest

end Draft

/-- The keys of the document that a text is are distinct. -/
theorem Document.nodup_keys_ofText? {text : String} {d : Document} (h : ofText? text = some d) :
    d.entries.keys.Nodup := by
  obtain ⟨statements, -, hdocument⟩ := Option.bind_eq_some_iff.1 h
  obtain ⟨draft, hdraft, rfl⟩ := Option.map_eq_some_iff.1 hdocument
  have hempty : Draft.empty.document.entries.keys.Nodup := List.nodup_nil
  exact Draft.nodup_keys_foldlM hempty hdraft

end TargetAbi.Toml
