import Extrinsics.Proofs.Tracking.Tasks

/-!
# The records of a run

A tracker writes to the hash that an update is about. So when the calls of a run are told
apart by their hashes, the record at the hash of a call is made by the task of that call, and
there are no other records.
-/

namespace Extrinsics

namespace Write

/-- Whether the record is terminal after a write. -/
def ends : Write → Bool
  | .add _ r => r.status.isTerminal
  | .status _ s => s.isTerminal
  | .error _ _ => true
  | .block _ _ => false

/-- Whether the record is terminal after a write does not depend on what it was before. -/
theorem isTerminal_of_revise {w : Write} {old : Option Record} {r : Record}
    (h : w.revise old = some r) :
  r.status.isTerminal = w.ends
  := by
  cases w with
  | add k r' =>
    cases h
    rfl
  | status k s =>
    obtain ⟨r', -, rfl⟩ := Option.map_eq_some_iff.1 h
    rfl
  | error k message =>
    obtain ⟨r', -, rfl⟩ := Option.map_eq_some_iff.1 h
    rfl
  | block k b =>
    obtain ⟨r', -, rfl⟩ := Option.map_eq_some_iff.1 h
    rfl

/-- A record that is terminal was made so by a write. -/
theorem exists_ends {ws : List Write} {k : String} {r : Record}
    (h : reviseAll k ws none = some r) (hterm : r.status.isTerminal) :
  ∃ w ∈ ws, w.key = k ∧ w.ends
  := by
  induction ws using List.reverseRecOn generalizing r with
  | nil => cases h
  | append_singleton ws w ih =>
    rw [reviseAll_append, reviseAll_cons, reviseAll_nil] at h
    by_cases hkey : w.key = k
    · rw [if_pos hkey] at h
      use w, List.mem_append_right ws List.mem_cons_self, hkey
      rw [← isTerminal_of_revise h, hterm]
    · rw [if_neg hkey] at h
      obtain ⟨w', hw', hends⟩ := ih h hterm
      use w', List.mem_append_left [w] hw'

end Write

namespace Tracker

/-- Every write is the making of a record, or the note of a block, or the end of a call. -/
theorem mem_writes_receive {t : Tracker} {now : BitVec 64} {u : Update} {w : Write}
    (h : w ∈ writes (t.receive now u).1) :
  t.enters u ∧ w = t.addition (now, u) ∨ w ∈ u.inclusion ∨ w ∈ t.ending u
  := by
  by_cases hbreak : t.breaksAt u
  · rw [(t.writes_receive now u).1 hbreak] at h
    left
    use hbreak.1, List.mem_singleton.1 h
  · rw [(t.writes_receive now u).2 hbreak, plain] at h
    rcases List.mem_append.1 h with h | h
    · left
      split at h
      · rename_i henters
        use henters, List.mem_singleton.1 h
      · cases h
    · right
      apply List.mem_append.1 h

theorem eq_of_mem_inclusion {u : Update} {w : Write} (h : w ∈ u.inclusion) :
  ∃ b, w = .block u.key (Hash.normalize b)
  := by
  rw [Update.inclusion] at h
  obtain ⟨b, -, rfl⟩ := List.mem_map.1 h
  use b

theorem eq_of_mem_ending {t : Tracker} {u : Update} {w : Write} (h : w ∈ t.ending u) :
  u.isLast ∧ (w = .status u.key .finalized ∨ ∃ message, w = .error u.key message)
  := by
  rw [ending] at h
  rw [Update.isLast]
  cases he : u.dispatchError with
  | some e =>
    rw [he] at h
    use rfl
    right
    use (t.registry.describe e).1
    apply List.mem_singleton.1 h
  | none =>
    rw [he] at h
    dsimp only at h
    split at h
    · rename_i hfinal
      use hfinal
      left
      apply List.mem_singleton.1 h
    · cases h

/-- A write goes to the hash that its update is about, and if it ends the call, then the
update is the last one of the call. -/
theorem key_of_mem_writes_receive {t : Tracker} {now : BitVec 64} {u : Update} {w : Write}
    (h : w ∈ writes (t.receive now u).1) :
  w.key = u.key ∧ (w.ends → u.isLast)
  := by
  rcases mem_writes_receive h with ⟨-, rfl⟩ | h | h
  · use rfl
    rintro ⟨⟩
  · obtain ⟨b, rfl⟩ := eq_of_mem_inclusion h
    use rfl
    rintro ⟨⟩
  · obtain ⟨hlast, rfl | ⟨message, rfl⟩⟩ := eq_of_mem_ending h
    · exact ⟨rfl, fun _ => hlast⟩
    · exact ⟨rfl, fun _ => hlast⟩

theorem key_of_mem_writes_follow {t : Tracker} {es : List Taken} {w : Write}
    (h : w ∈ writes (t.follow es).1) :
  ∃ e ∈ es, w.key = e.2.key ∧ (w.ends → e.2.isLast)
  := by
  induction es generalizing t with
  | nil => cases h
  | cons e es ih =>
    cases hout : (t.receive e.1 e.2).2.2 with
    | some o =>
      rw [follow_cons_some hout] at h
      use e, List.mem_cons_self
      apply key_of_mem_writes_receive h
    | none =>
      rw [follow_cons_none hout, writes_append, List.mem_append] at h
      rcases h with h | h
      · use e, List.mem_cons_self
        apply key_of_mem_writes_receive h
      · obtain ⟨d, hd, hkey⟩ := ih h
        use d, List.mem_cons_of_mem e hd

end Tracker

namespace Executor

variable {client : Client} {as : List Action}

/-- A task writes to the hashes that the updates it took are about. -/
theorem key_of_mem_writes {i : Nat} {w : Write} (h : w ∈ writes (history client as i).done) :
  ∃ e ∈ (history client as i).taken, w.key = e.2.key ∧ (w.ends → e.2.isLast)
  := by
  cases hi : (run client as).tasks[i]? with
  | none =>
    rw [history_eq_empty client as hi] at h
    cases h
  | some t =>
    rw [(followed_run client as hi).done] at h
    apply Tracker.key_of_mem_writes_follow h

/-- The writes to a hash are those of the one task that writes there. -/
theorem filter_writes_run {i : Nat} {k : String}
    (hown : ∀ w ∈ writes (history client as i).done, w.key = k)
    (hother : ∀ j ≠ i, ∀ w ∈ writes (history client as j).done, w.key ≠ k) :
  (writes (run client as).deeds).filter (fun w => w.key = k)
    = writes (history client as i).done
  := by
  induction as using List.reverseRecOn with
  | nil => rfl
  | append_singleton as a ih =>
    obtain ⟨j, ds, hdeeds, -, hpart⟩ := (run client as).deeds_perform a
    have hdone (l : Nat) : writes (history client (as ++ [a]) l).done
        = writes (history client as l).done ++ if j = l then writes ds else [] := by
      rw [history_concat, ← hpart]
      apply writes_append
    rw [hdone] at hown ⊢
    have hrest := ih
      (fun w hw => hown w (List.mem_append_left _ hw))
      (fun l hl w hw => hother l hl w (hdone l ▸ List.mem_append_left _ hw))
    rw [run_concat, hdeeds, writes_append, List.filter_append, hrest]
    congr 1
    by_cases hj : j = i
    · rw [if_pos hj] at hown ⊢
      apply List.filter_eq_self.2
      intro w hw
      rw [hown w (List.mem_append_right _ hw)]
      apply decide_eq_true rfl
    · rw [if_neg hj]
      apply List.filter_eq_nil_iff.2
      intro w hw
      have hmem : w ∈ writes (history client (as ++ [a]) j).done := by
        rw [hdone, if_pos rfl]
        apply List.mem_append_right _ hw
      rw [decide_eq_true_iff]
      apply hother j hj w hmem

/-- A task writes to the hashes that the updates it received are about. -/
theorem exists_received_of_mem {i : Nat} {w : Write}
    (h : w ∈ writes (history client as i).done) :
  ∃ u ∈ (history client as i).received, w.key = u.key
  := by
  obtain ⟨e, he, hkey, -⟩ := key_of_mem_writes h
  cases hi : (run client as).tasks[i]? with
  | none =>
    rw [history_eq_empty client as hi] at he
    cases he
  | some t =>
    use e.2
    constructor
    · apply (followed_run client as hi).isPrefix_taken.subset
      apply List.mem_map_of_mem he
    · apply hkey

/-- All updates that a task receives are about one hash, and no other task receives an update
about it. -/
structure Sole (client : Client) (as : List Action) (i : Nat) (k : String) : Prop where
  own : ∀ u ∈ (history client as i).received, u.key = k
  other : ∀ j ≠ i, ∀ u ∈ (history client as j).received, u.key ≠ k

namespace Sole

variable {i : Nat} {k : String} (h : Sole client as i k)

include h

/-- The writes to the hash are those of the task. -/
theorem filter_writes :
  (writes (run client as).deeds).filter (fun w => w.key = k)
    = writes (history client as i).done
  := by
  apply filter_writes_run
  · intro w hw
    obtain ⟨u, hu, hkey⟩ := exists_received_of_mem hw
    rw [hkey, h.own u hu]
  · intro j hj w hw
    obtain ⟨u, hu, hkey⟩ := exists_received_of_mem hw
    rw [hkey]
    apply h.other j hj u hu

/-- The record at the hash is what the writes of the task make of nothing. -/
theorem record?_run :
  (run client as).store.snapshot.record? k
    = Write.reviseAll k (writes (history client as i).done) none
  := by
  rw [store_run, Store.record?_replay, ← Write.reviseAll_filter, h.filter_writes]

omit h in
/-- The call of a run with one task shares its hash with no other. -/
theorem of_single {s : Task} (hs : (run client as).tasks = [s])
    (hown : ∀ u ∈ (history client as 0).received, u.key = k) :
  Sole client as 0 k
  where
  own := hown
  other := by
    intro j hj u hu
    have hnone : (run client as).tasks[j]? = none := by
      rw [hs]
      apply List.getElem?_eq_none
      rw [List.length_singleton]
      omega
    rw [history_eq_empty client as hnone] at hu
    cases hu

end Sole

/-- The calls of a run are told apart: all updates that a task receives are about one hash,
its key, and no two tasks have the same key. -/
structure Separate (client : Client) (as : List Action) (key : Nat → String) : Prop where
  own : ∀ i, ∀ u ∈ (history client as i).received, u.key = key i
  distinct : ∀ i j, i < (run client as).tasks.length → j < (run client as).tasks.length →
    key i = key j → i = j

namespace Separate

variable {key : Nat → String} (h : Separate client as key)

include h

/-- The key of a task is the hash of its call only. -/
theorem sole {i : Nat} (hi : i < (run client as).tasks.length) :
  Sole client as i (key i)
  where
  own := h.own i
  other := by
    intro j hj u hu hkey
    apply hj
    apply h.distinct j i _ hi
    · rw [← h.own j u hu, hkey]
    · by_contra hlength
      rw [history_eq_empty client as (List.getElem?_eq_none (not_lt.1 hlength))] at hu
      cases hu

/-- A task writes at its key only. -/
theorem key_of_mem {i : Nat} {w : Write} (hw : w ∈ writes (history client as i).done) :
  w.key = key i ∧ i < (run client as).tasks.length
  := by
  obtain ⟨u, hu, hkey⟩ := exists_received_of_mem hw
  rw [hkey, h.own i u hu]
  use rfl
  by_contra hlength
  rw [history_eq_empty client as (List.getElem?_eq_none (not_lt.1 hlength))] at hu
  cases hu

/-- The writes at the key of a task are those of the task. -/
theorem filter_writes {i : Nat} (hi : i < (run client as).tasks.length) :
  (writes (run client as).deeds).filter (fun w => w.key = key i)
    = writes (history client as i).done
  := (h.sole hi).filter_writes

/-- The record at the key of a task is what the writes of the task make of nothing. -/
theorem record?_run {i : Nat} (hi : i < (run client as).tasks.length) :
  (run client as).store.snapshot.record? (key i)
    = Write.reviseAll (key i) (writes (history client as i).done) none
  := (h.sole hi).record?_run

/-- There are records at the keys of tasks only. -/
theorem exists_of_mem {k : String} {w : Write} (hw : w ∈ writes (run client as).deeds)
    (hkey : w.key = k) :
  ∃ i < (run client as).tasks.length, key i = k
  := by
  obtain ⟨i, hi⟩ := mem_writes_run client as hw
  obtain ⟨hown, hlength⟩ := h.key_of_mem hi
  use i, hlength
  rw [← hown, hkey]

end Separate

/-- Two calls with different hashes are told apart. -/
theorem separate_pair {k k' : String} (hlength : (run client as).tasks.length = 2) (hne : k ≠ k')
    (hown : ∀ u ∈ (history client as 0).received, u.key = k)
    (hown' : ∀ u ∈ (history client as 1).received, u.key = k') :
  Separate client as fun i => if i = 0 then k else k'
  where
  own := by
    intro i u hu
    match i with
    | 0 => apply hown u hu
    | 1 => apply hown' u hu
    | i + 2 =>
      rw [history_eq_empty client as (List.getElem?_eq_none (by omega))] at hu
      cases hu
  distinct := by
    intro i j hi hj hkey
    rw [hlength] at hi hj
    by_cases hzero : i = 0
    · by_cases hzero' : j = 0
      · rw [hzero, hzero']
      · rw [if_pos hzero, if_neg hzero'] at hkey
        exact (hne hkey).elim
    · by_cases hzero' : j = 0
      · rw [if_neg hzero, if_pos hzero'] at hkey
        exact (hne hkey.symm).elim
      · omega

theorem separate_interleavedRun :
  Separate Samples.client Samples.interleavedRun
    fun i => if i = 0 then "0xabc" else "0xdef"
  := separate_pair rfl (by decide) (by decide) (by decide)

end Executor

end Extrinsics
