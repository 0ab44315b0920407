/-!
# Tables

A table maps keys to values and lists its entries in ascending order of the keys. Strings
are ordered by code points, which is the order of their UTF-8 octets.
-/

namespace Extrinsics

/-- A finite map from strings, its entries in strictly ascending order of keys. -/
structure Table (α : Type) where
  entries : List (String × α)
  ascending : entries.Pairwise fun a b => a.1 < b.1

namespace Table

variable {α β : Type}

/-! ### Entries in order -/

/-- A list of entries with the value at one key set. -/
def insertEntry (k : String) (v : α) : List (String × α) → List (String × α)
  | [] => [(k, v)]
  | e :: rest =>
    if k < e.1 then (k, v) :: e :: rest
    else if k = e.1 then (k, v) :: rest
    else e :: insertEntry k v rest

theorem mem_insertEntry {k : String} {v : α} {l : List (String × α)} {e : String × α}
    (h : e ∈ insertEntry k v l) :
  e = (k, v) ∨ e ∈ l
  := by
  induction l with
  | nil => simpa [insertEntry] using h
  | cons d rest ih =>
    rw [insertEntry] at h
    split at h
    · simpa using h
    · split at h
      · rcases List.mem_cons.1 h with h | h
        · exact .inl h
        · exact .inr (List.mem_cons_of_mem _ h)
      · rcases List.mem_cons.1 h with h | h
        · exact .inr (h ▸ List.mem_cons_self)
        · exact (ih h).imp_right (List.mem_cons_of_mem _)

theorem pairwise_insertEntry {k : String} {v : α} {l : List (String × α)}
    (h : l.Pairwise fun a b => a.1 < b.1) :
  (insertEntry k v l).Pairwise fun a b => a.1 < b.1
  := by
  induction l with
  | nil => simp [insertEntry]
  | cons d rest ih =>
    obtain ⟨hd, hrest⟩ := List.pairwise_cons.1 h
    rw [insertEntry]
    split
    · rename_i hlt
      refine List.pairwise_cons.2 ⟨fun e he => ?_, h⟩
      rcases List.mem_cons.1 he with rfl | he
      · exact hlt
      · exact String.lt_trans hlt (hd e he)
    · split
      · rename_i heq
        exact List.pairwise_cons.2 ⟨fun e he => heq ▸ hd e he, hrest⟩
      · rename_i hlt hne
        refine List.pairwise_cons.2 ⟨fun e he => ?_, ih hrest⟩
        rcases mem_insertEntry he with rfl | he
        · have := String.le_total k d.1
          grind
        · exact hd e he

/-! ### Operations -/

/-- The table without entries. -/
def empty : Table α := ⟨[], .nil⟩

instance : EmptyCollection (Table α) := ⟨empty⟩

instance : Inhabited (Table α) := ⟨empty⟩

/-- The value at a key. -/
def get? (t : Table α) (k : String) : Option α :=
  (t.entries.find? fun e => e.1 == k).map Prod.snd

/-- Whether a key has a value. -/
def contains (t : Table α) (k : String) : Bool := (t.get? k).isSome

/-- The table with the value at a key set. -/
def insert (t : Table α) (k : String) (v : α) : Table α :=
  ⟨insertEntry k v t.entries, pairwise_insertEntry t.ascending⟩

/-- The table without the value at a key. -/
def erase (t : Table α) (k : String) : Table α :=
  ⟨t.entries.filter fun e => e.1 != k, t.ascending.filter _⟩

/-- The keys, in ascending order. -/
def keys (t : Table α) : List String := t.entries.map Prod.fst

/-- The values, in the order of their keys. -/
def values (t : Table α) : List α := t.entries.map Prod.snd

/-- The table with every value replaced, given its key. -/
def mapWithKey (f : String → α → β) (t : Table α) : Table β where
  entries := t.entries.map fun e => (e.1, f e.1 e.2)
  ascending := List.pairwise_map.2 t.ascending

/-- The table with every value replaced. -/
def map (f : α → β) (t : Table α) : Table β := t.mapWithKey fun _ => f

/-- The table with the value at a key replaced, if it has one. -/
def modify (t : Table α) (k : String) (f : α → α) : Table α :=
  t.mapWithKey fun k' v => if k' = k then f v else v

/-- The table of a list of entries. Of entries with one key the last stays. -/
def ofList (l : List (String × α)) : Table α :=
  l.foldl (fun t e => t.insert e.1 e.2) empty

@[ext] theorem ext {s t : Table α} (h : s.entries = t.entries) :
  s = t
  := by
  cases s; cases t; cases h; rfl

instance [DecidableEq α] : DecidableEq (Table α) := fun s t =>
  if h : s.entries = t.entries then .isTrue (ext h) else .isFalse fun h' => h (h' ▸ rfl)

/-! ### Laws -/

theorem find?_insertEntry (k k' : String) (v : α) (l : List (String × α)) :
  (insertEntry k v l).find? (fun e => e.1 == k')
    = if k = k' then some (k, v) else l.find? (fun e => e.1 == k')
  := by
  induction l with
  | nil => by_cases h : k = k' <;> simp [insertEntry, h]
  | cons d rest ih =>
    rw [insertEntry]
    split
    · by_cases h : k = k' <;> simp [h]
    · split
      · rename_i heq
        by_cases h : k = k' <;> simp [← heq, h]
      · rename_i hne
        rw [List.find?_cons, List.find?_cons, ih]
        by_cases h : k = k'
        · subst h
          have hd : (d.1 == k) = false := by simpa using Ne.symm hne
          simp [hd]
        · simp [h]

/-- Setting a value at a key changes what the table holds at that key only. -/
@[simp] theorem get?_insert (t : Table α) (k k' : String) (v : α) :
  (t.insert k v).get? k' = if k = k' then some v else t.get? k'
  := by
  rw [get?, get?, insert, find?_insertEntry]
  split <;> rfl

/-- Taking a value away changes what the table holds at its key only. -/
@[simp] theorem get?_erase (t : Table α) (k k' : String) :
  (t.erase k).get? k' = if k = k' then none else t.get? k'
  := by
  obtain ⟨l, hl⟩ := t
  simp only [get?, erase]
  clear hl
  induction l with
  | nil => simp
  | cons e rest ih =>
    by_cases h : e.1 = k <;> by_cases h' : e.1 = k' <;> grind

@[simp] theorem get?_empty (k : String) : (empty : Table α).get? k = none := rfl

/-- Replacing every value replaces what the table holds at each key. -/
@[simp] theorem get?_mapWithKey (f : String → α → β) (t : Table α) (k : String) :
  (t.mapWithKey f).get? k = (t.get? k).map (f k)
  := by
  obtain ⟨l, hl⟩ := t
  simp only [get?, mapWithKey]
  clear hl
  induction l with
  | nil => rfl
  | cons e rest ih =>
    by_cases h : e.1 = k
    · simp [h]
    · simpa [h] using ih

@[simp] theorem keys_mapWithKey (f : String → α → β) (t : Table α) :
  (t.mapWithKey f).keys = t.keys
  := by
  simp [keys, mapWithKey]

end Table

end Extrinsics
