import Mathlib.Data.List.Induction
import Mathlib.Data.List.Sort
import Extrinsics.Proofs.Lists
import Extrinsics.Table

/-!
# Tables as functions

A table lists each key once. So it is determined by what it holds at each key.
-/

namespace Extrinsics.Table

variable {α : Type}

/-- The entries of a table are its keys with what it holds there. -/
theorem mem_entries_iff (t : Table α) (k : String) (v : α) :
  (k, v) ∈ t.entries ↔ t.get? k = some v
  := by
  obtain ⟨l, hl⟩ := t
  simp only [get?]
  induction l with
  | nil => simp
  | cons e rest ih =>
    obtain ⟨he, hrest⟩ := List.pairwise_cons.1 hl
    rw [List.mem_cons, List.find?_cons, ih hrest]
    obtain ⟨k', v'⟩ := e
    by_cases h : k' = k
    · subst h
      simp only [beq_self_eq_true, Option.map_some, Option.some.injEq, Prod.mk.injEq, true_and]
      constructor
      · rintro (rfl | hv)
        · rfl
        · obtain ⟨d, hd, -⟩ := Option.map_eq_some_iff.1 hv
          have hlt := he d (List.mem_of_find?_eq_some hd)
          have hkey := List.find?_some hd
          simp only [beq_iff_eq] at hkey
          rw [hkey] at hlt
          exact (String.lt_irrefl _ hlt).elim
      · rintro rfl
        left
        rfl
    · have hb : (k' == k) = false := by simpa using h
      simp [hb, Ne.symm h]

theorem nodup_keys (t : Table α) :
  t.keys.Nodup
  := by
  apply List.pairwise_map.2
  apply t.ascending.imp
  intro a b hlt heq
  rw [heq] at hlt
  exact String.lt_irrefl _ hlt

/-- A table is determined by what it holds at each key. -/
theorem ext_get? {s t : Table α} (h : ∀ k, s.get? k = t.get? k) :
  s = t
  := by
  have : Std.Antisymm fun a b : String × α => a.1 < b.1 :=
    ⟨fun _ _ hab hba => (String.lt_irrefl _ (String.lt_trans hab hba)).elim⟩
  have : Std.Irrefl fun a b : String × α => a.1 < b.1 := ⟨fun _ => String.lt_irrefl _⟩
  apply ext
  apply s.ascending.eq_of_mem_iff t.ascending
  rintro ⟨k, v⟩
  rw [mem_entries_iff, mem_entries_iff, h]

/-- The keys of a table are those at which it holds something. -/
theorem keys_eq_of_isSome {β : Type} {s : Table α} {t : Table β}
    (h : ∀ k, (s.get? k).isSome = (t.get? k).isSome) :
  s.keys = t.keys
  := by
  have hsame : (s.mapWithKey fun _ _ => ()) = t.mapWithKey fun _ _ => () := by
    apply ext_get?
    intro k
    rw [get?_mapWithKey, get?_mapWithKey]
    have hk := h k
    cases hs : s.get? k <;> cases ht : t.get? k <;> simp [hs, ht] at hk ⊢
  rw [← keys_mapWithKey (fun _ _ => ()) s, hsame, keys_mapWithKey]

/-- Of entries with one key the last stays. -/
theorem get?_ofList (l : List (String × α)) (k : String) :
  (ofList l).get? k = (l.filter fun e => e.1 = k).getLast?.map Prod.snd
  := by
  induction l using List.reverseRecOn with
  | nil => rfl
  | append_singleton l e ih =>
    have hconcat : ofList (l ++ [e]) = (ofList l).insert e.1 e.2 := List.foldl_append
    rw [hconcat, get?_insert, ih, getLast?_filter_concat fun e : String × α => e.1 = k]
    split_ifs <;> rfl

theorem mem_of_mem_ofList {l : List (String × α)} {e : String × α} (h : e ∈ (ofList l).entries) :
  e ∈ l
  := by
  obtain ⟨k, v⟩ := e
  rw [mem_entries_iff, get?_ofList, Option.map_eq_some_iff] at h
  obtain ⟨⟨k', v'⟩, hlast, rfl⟩ := h
  obtain ⟨hmem, rfl⟩ := mem_of_getLast?_filter hlast
  exact hmem

theorem get?_ofList_eq_none {l : List (String × α)} {k : String} (h : k ∉ l.map Prod.fst) :
  (ofList l).get? k = none
  := by
  rw [Option.eq_none_iff_forall_ne_some]
  intro v hv
  rw [← mem_entries_iff] at hv
  apply h (List.mem_map_of_mem (mem_of_mem_ofList hv))

/-- The entries of a table are its own list of entries. -/
theorem ofList_entries (t : Table α) :
  ofList t.entries = t
  := by
  apply ext_get?
  intro k
  apply Option.ext
  intro v
  rw [← mem_entries_iff, ← mem_entries_iff]
  constructor
  · apply mem_of_mem_ofList
  · intro h
    obtain ⟨e, hlast⟩ := exists_getLast?_filter (fun e : String × α => e.1 = k) h rfl
    obtain ⟨hmem, hkey⟩ := mem_of_getLast?_filter hlast
    obtain rfl : e = (k, v) := by
      obtain ⟨k', v'⟩ := e
      obtain rfl : k' = k := hkey
      rw [mem_entries_iff] at hmem h
      rw [hmem] at h
      cases h
      rfl
    rw [mem_entries_iff, get?_ofList, hlast]
    rfl

/-- An entry with a key of its own stays beside the others. -/
theorem get?_ofList_cons {k : String} {l : List (String × α)} (h : k ∉ l.map Prod.fst) (v : α)
    (k' : String) :
  (ofList ((k, v) :: l)).get? k' = if k = k' then some v else (ofList l).get? k'
  := by
  split_ifs with hk
  · subst hk
    have hnone := get?_ofList_eq_none h
    rw [get?_ofList, Option.map_eq_none_iff, List.getLast?_eq_none_iff] at hnone
    rw [get?_ofList, List.filter_cons_of_pos (by simp), hnone]
    rfl
  · rw [get?_ofList, get?_ofList, List.filter_cons_of_neg (by simpa using hk)]

@[simp] theorem get?_map {β : Type} (f : α → β) (t : Table α) (k : String) :
  (t.map f).get? k = (t.get? k).map f
  := get?_mapWithKey _ t k

end Extrinsics.Table
