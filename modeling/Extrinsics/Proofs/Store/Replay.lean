import Extrinsics.Proofs.Table
import Extrinsics.Store.Live
import Extrinsics.Tracking.Tracker

/-!
# Replaying writes

A store is what the writes it took make of a store without records. At each hash it holds
what the writes to that hash, in their order, make of no record: writes to other hashes do
not matter.
-/

namespace Extrinsics

namespace Write

/-- What writes make of the record at a hash, one after the other. -/
def reviseAll (hash : String) (ws : List Write) (old : Option Record) : Option Record :=
  (ws.filter fun w => w.key = hash).foldl (fun r w => w.revise r) old

@[simp] theorem reviseAll_nil (hash : String) (old : Option Record) :
  reviseAll hash [] old = old
  := rfl

theorem reviseAll_cons (hash : String) (w : Write) (ws : List Write) (old : Option Record) :
  reviseAll hash (w :: ws) old
    = reviseAll hash ws (if w.key = hash then w.revise old else old)
  := by
  rw [reviseAll, List.filter_cons]
  by_cases h : w.key = hash
  · simp [h, reviseAll]
  · simp [h, reviseAll]

/-- A single write to a hash. -/
theorem reviseAll_singleton {hash : String} {w : Write} (h : w.key = hash) (old : Option Record) :
  reviseAll hash [w] old = w.revise old
  := by
  rw [reviseAll_cons, reviseAll_nil, if_pos h]

theorem reviseAll_append (hash : String) (ws ws' : List Write) (old : Option Record) :
  reviseAll hash (ws ++ ws') old = reviseAll hash ws' (reviseAll hash ws old)
  := by
  simp only [reviseAll, List.filter_append, List.foldl_append]

/-- Only the writes to a hash matter for the record there. -/
theorem reviseAll_filter (hash : String) (ws : List Write) (old : Option Record) :
  reviseAll hash (ws.filter fun w => w.key = hash) old = reviseAll hash ws old
  := by
  simp only [reviseAll, List.filter_filter, Bool.and_self]

/-- Writes to other hashes do not matter. -/
theorem reviseAll_of_forall_ne {hash : String} {ws : List Write} (h : ∀ w ∈ ws, w.key ≠ hash)
    (old : Option Record) :
  reviseAll hash ws old = old
  := by
  have hfilter : ws.filter (fun w => w.key = hash) = [] := by
    apply List.filter_eq_nil_iff.2
    intro w hw hkey
    apply h w hw (of_decide_eq_true hkey)
  rw [reviseAll, hfilter]
  rfl

end Write

namespace Snapshot

/-- A write changes the record at its hash only. -/
theorem record?_apply (fresh : Nat) (m : Snapshot) (w : Write) (hash : String) :
  (m.apply fresh w).record? hash
    = if w.key = hash then w.revise (m.record? hash) else m.record? hash
  := by
  rw [apply]
  split
  · rename_i h
    split
    · rename_i hkey
      rw [hkey] at h
      -- A write that changes nothing has met no record.
      have hnone : m.record? hash = none := by
        cases w <;> simp_all [Write.revise]
      rw [h, hnone]
    · rfl
  · rename_i r h
    simp only [record?, Table.get?_insert]
    split
    · rename_i hkey
      subst hkey
      apply h.symm
    · rfl

/-- Snapshots with the same record at each hash have the same table of records. -/
theorem records_ext {m m' : Snapshot} (h : ∀ hash, m.record? hash = m'.record? hash) :
  m.records = m'.records
  := by
  apply Table.ext_get?
  intro hash
  rw [records, records, Table.get?_map, Table.get?_map]
  apply h

end Snapshot

namespace Store

/-- The store after writes, one after the other, to a store without records. -/
def replay (ws : List Write) : Store := ws.foldl write .empty

theorem replay_append (ws ws' : List Write) :
  replay (ws ++ ws') = ws'.foldl write (replay ws)
  := List.foldl_append

theorem record?_foldl_write (s : Store) (ws : List Write) (hash : String) :
  (ws.foldl write s).snapshot.record? hash
    = Write.reviseAll hash ws (s.snapshot.record? hash)
  := by
  induction ws generalizing s with
  | nil => rfl
  | cons w ws ih => rw [List.foldl_cons, ih, Write.reviseAll_cons, write, Snapshot.record?_apply]

/-- The record at a hash is what the writes to that hash make of none. -/
theorem record?_replay (ws : List Write) (hash : String) :
  (replay ws).snapshot.record? hash = Write.reviseAll hash ws none
  := record?_foldl_write .empty ws hash

/-- Every record was written. -/
theorem exists_of_record?_replay {ws : List Write} {hash : String} {r : Record}
    (h : (replay ws).snapshot.record? hash = some r) :
  ∃ w ∈ ws, w.key = hash
  := by
  by_contra hnone
  rw [record?_replay, Write.reviseAll_of_forall_ne] at h
  · cases h
  · intro w hw hkey
    apply hnone ⟨w, hw, hkey⟩

end Store

/-! ### Deeds -/

/-- The write that a deed is. -/
def Deed.write? : Deed → Option Write
  | .write w => some w
  | _ => none

@[simp] theorem Deed.write?_write (w : Write) : (Deed.write w).write? = some w := rfl

@[simp] theorem Deed.write?_count (m : Metric Unit) : (Deed.count m).write? = none := rfl

/-- Whether a deed tells a callback something. -/
def Deed.tells : Deed → Bool
  | .tellReady _ => true
  | .tellFinalized _ _ => true
  | .tellError _ => true
  | _ => false

@[simp] theorem Deed.tells_write (w : Write) : (Deed.write w).tells = false := rfl

@[simp] theorem Deed.tells_count (m : Metric Unit) : (Deed.count m).tells = false := rfl

/-- The writes among deeds, in their order. -/
def writes (ds : List Deed) : List Write := ds.filterMap Deed.write?

/-- The deeds that tell callbacks, in their order. -/
def tellings (ds : List Deed) : List Deed := ds.filter Deed.tells

@[simp] theorem writes_nil : writes [] = [] := rfl

@[simp] theorem tellings_nil : tellings [] = [] := rfl

theorem writes_cons (d : Deed) (ds : List Deed) :
  writes (d :: ds) = d.write?.toList ++ writes ds
  := by
  rw [writes, List.filterMap_cons]
  cases d.write? <;> rfl

theorem tellings_cons (d : Deed) (ds : List Deed) :
  tellings (d :: ds) = if d.tells then d :: tellings ds else tellings ds
  := List.filter_cons

@[simp] theorem writes_append (ds ds' : List Deed) :
  writes (ds ++ ds') = writes ds ++ writes ds'
  := List.filterMap_append

@[simp] theorem tellings_append (ds ds' : List Deed) :
  tellings (ds ++ ds') = tellings ds ++ tellings ds'
  := List.filter_append ds ds'

end Extrinsics
