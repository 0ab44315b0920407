import Mathlib.Data.List.Induction
import Extrinsics.Store.Live

/-!
# Watching a store

A store is written to and perhaps dropped, while observers of it are made, read and asked for
new snapshots, all in any order. A snapshot is published by a write that puts a record, or by
one to a record that is there. Each published snapshot has a stamp of its own. So two moments
of a history have the same stamp exactly when nothing was published between them, and then they
have the same snapshot.

To ask whether a value is stale changes nothing, so that this is no action of a history.
-/

namespace Extrinsics

/-- Whether a write makes a new snapshot: it puts a record, or there is one at its hash. -/
def Snapshot.Takes (m : Snapshot) : Write → Prop
  | .add _ _ => True
  | .status hash _ => (m.record? hash).isSome
  | .error hash _ => (m.record? hash).isSome
  | .block hash _ => (m.record? hash).isSome

theorem Snapshot.isSome_revise_iff (m : Snapshot) (w : Write) :
  (w.revise (m.record? w.key)).isSome ↔ m.Takes w
  := by
  cases w with
  | add hash r => exact iff_of_true rfl trivial
  | status hash s => rw [Write.revise, Option.isSome_map, Takes, Write.key]
  | error hash message => rw [Write.revise, Option.isSome_map, Takes, Write.key]
  | block hash b => rw [Write.revise, Option.isSome_map, Takes, Write.key]

namespace Store

variable {s : Store} {w : Write}

theorem write_of_not_takes (h : ¬ s.snapshot.Takes w) :
  s.write w = s
  := by
  rw [← Snapshot.isSome_revise_iff, Option.not_isSome_iff_eq_none] at h
  rw [write, Snapshot.apply, h]

theorem stamp_write_of_takes (h : s.snapshot.Takes w) :
  (s.write w).snapshot.stamp = s.snapshot.stamp + 1
  := by
  rw [← Snapshot.isSome_revise_iff] at h
  obtain ⟨r, hr⟩ := Option.isSome_iff_exists.1 h
  rw [write, Snapshot.apply, hr]

end Store

/-! ### Observers -/

/-- What an observer tells. -/
inductive Topic where
  /-- A view of the whole store. -/
  | view
  /-- A plain receiver of snapshots. -/
  | receiver
  /-- Whether a call of a family is under way. -/
  | pending (s : Signature)
  /-- The records of a family of calls. -/
  | calls (s : Signature)
deriving DecidableEq

namespace Topic

/-- What a snapshot has to tell. -/
def read (m : Snapshot) : Topic → Reading
  | view => .all m.records
  | receiver => .all m.records
  | pending s => .flag (m.isPending s)
  | calls s => .records (m.calls s)

/-- A new observer of a store, with a stamp counting as seen. -/
def observe (s : Store) (seen : Nat) : Topic → Observer
  | view => .view seen
  | receiver => .receiver seen
  | pending f => .pending (.ofStore Snapshot.isPending s seen f)
  | calls f => .calls (.ofStore Snapshot.calls s seen f)

/-- Whether an observer keeps a value that it computes. -/
def IsDerived : Topic → Prop
  | pending _ => True
  | calls _ => True
  | _ => False

end Topic

/-- What an observer tells. -/
def Observer.topic : Observer → Topic
  | view _ => .view
  | receiver _ => .receiver
  | pending d => .pending d.signature
  | calls d => .calls d.signature

theorem Topic.topic_observe (t : Topic) (s : Store) (seen : Nat) :
  (t.observe s seen).topic = t
  := by
  cases t <;> rfl

theorem Topic.seen_observe (t : Topic) (s : Store) (seen : Nat) :
  (t.observe s seen).seen = seen
  := by
  cases t <;> rfl

/-! ### Histories -/

/-- A store, and the observers that were made of it. -/
structure Watch where
  store : Store
  observers : List Observer

namespace Watch

/-- One thing that happens to a store or to an observer. -/
inductive Action where
  | write (w : Write)
  /-- The owner of the store drops it. -/
  | drop
  /-- An observer is made of the store, or of the view with a number. -/
  | observe (t : Topic) (view? : Option Nat)
  | get (i : Nat)
  /-- One look for a new snapshot. -/
  | poll (i : Nat)

/-- The store without records and without observers. -/
def start : Watch := ⟨.empty, []⟩

/-- The stamp that a new observer counts as seen: the current one of the store, or the one that
a view has seen. There is none if the store is gone, or if there is no such view. -/
def origin? (s : Watch) : Option Nat → Option Nat
  | none => if s.store.isLive then some s.store.snapshot.stamp else none
  | some j =>
    match s.observers[j]? with
    | some (.view seen) => some seen
    | _ => none

/-- The store and its observers after an action. Nobody writes to a store that is gone. -/
def perform (s : Watch) : Action → Watch
  | .write w => if s.store.isLive then { s with store := s.store.write w } else s
  | .drop => { s with store := s.store.drop }
  | .observe t view? =>
    match s.origin? view? with
    | some seen => { s with observers := s.observers ++ [t.observe s.store seen] }
    | none => s
  | .get i => { s with observers := s.observers.modify i fun o => (o.get s.store).2 }
  | .poll i => { s with observers := s.observers.modify i fun o => (o.poll s.store).2 }

/-- The store and its observers after actions that happen one after the other. -/
def run (as : List Action) : Watch := as.foldl perform start

theorem run_concat (as : List Action) (a : Action) :
  run (as ++ [a]) = (run as).perform a
  := List.foldl_append

/-! ### Publications -/

/-- Whether an action publishes a snapshot. -/
def Publishes (s : Watch) : Action → Prop
  | .write w => s.store.isLive ∧ s.store.snapshot.Takes w
  | _ => False

variable {s : Watch} {a : Action}

theorem stamp_perform (h : s.Publishes a) :
  (s.perform a).store.snapshot.stamp = s.store.snapshot.stamp + 1
  := by
  cases a with
  | write w =>
    rw [perform, if_pos h.1]
    apply Store.stamp_write_of_takes h.2
  | _ => cases h

/-- The snapshot stays when none is published. -/
theorem snapshot_perform (h : ¬ s.Publishes a) :
  (s.perform a).store.snapshot = s.store.snapshot
  := by
  cases a with
  | write w =>
    rw [perform]
    split
    · rename_i hlive
      have hnot : ¬ s.store.snapshot.Takes w := fun htakes => h ⟨hlive, htakes⟩
      dsimp only
      rw [Store.write_of_not_takes hnot]
    · rfl
  | observe t view? =>
    rw [perform]
    split <;> rfl
  | _ => rfl

/-- A snapshot was published in a history after a part of it. -/
def Published (bs as : List Action) : Prop :=
  ∃ cs a, bs <+: cs ∧ cs ++ [a] <+: as ∧ (run cs).Publishes a

variable {as bs cs : List Action}

theorem Published.mono_left (h : Published bs as) (hcs : cs <+: bs) :
  Published cs as
  := by
  obtain ⟨ds, a, hds, has, ha⟩ := h
  use ds, a, hcs.trans hds

theorem Published.mono_right (h : Published bs as) (hcs : as <+: cs) :
  Published bs cs
  := by
  obtain ⟨ds, a, hds, has, ha⟩ := h
  use ds, a, hds, has.trans hcs

theorem published_concat (hbs : bs <+: as) (ha : (run as).Publishes a) :
  Published bs (as ++ [a])
  := ⟨as, a, hbs, List.prefix_rfl, ha⟩

/-- Stamps never go back. -/
theorem stamp_le (h : bs <+: as) :
  (run bs).store.snapshot.stamp ≤ (run as).store.snapshot.stamp
  := by
  obtain ⟨cs, rfl⟩ := h
  induction cs using List.reverseRecOn with
  | nil => simp
  | append_singleton cs a ih =>
    rw [← List.append_assoc, run_concat]
    by_cases ha : (run (bs ++ cs)).Publishes a
    · rw [stamp_perform ha]
      omega
    · rwa [snapshot_perform ha]

/-- What is published has a stamp of its own. -/
theorem Published.stamp_lt (h : Published bs as) :
  (run bs).store.snapshot.stamp < (run as).store.snapshot.stamp
  := by
  obtain ⟨cs, a, hcs, has, ha⟩ := h
  have hstamp := stamp_perform ha
  rw [← run_concat] at hstamp
  calc (run bs).store.snapshot.stamp
    _ ≤ (run cs).store.snapshot.stamp := stamp_le hcs
    _ < (run (cs ++ [a])).store.snapshot.stamp := by omega
    _ ≤ (run as).store.snapshot.stamp := stamp_le has

/-- The snapshot stays as long as none is published. -/
theorem snapshot_eq (h : bs <+: as) (hnot : ¬ Published bs as) :
  (run as).store.snapshot = (run bs).store.snapshot
  := by
  obtain ⟨cs, rfl⟩ := h
  induction cs using List.reverseRecOn with
  | nil => rw [List.append_nil]
  | append_singleton cs a ih =>
    rw [← List.append_assoc] at hnot ⊢
    have ha : ¬ (run (bs ++ cs)).Publishes a :=
      fun ha => hnot (published_concat (List.prefix_append bs cs) ha)
    rw [run_concat, snapshot_perform ha]
    apply ih
    intro hpublished
    apply hnot (hpublished.mono_right (List.prefix_append _ [a]))

/-- A snapshot was published exactly when the stamp is another one. -/
theorem published_iff (h : bs <+: as) :
  Published bs as ↔ (run as).store.snapshot.stamp ≠ (run bs).store.snapshot.stamp
  := by
  constructor
  · intro hpublished
    have hlt := hpublished.stamp_lt
    omega
  · intro hne
    by_contra hnot
    apply hne
    rw [snapshot_eq h hnot]

theorem snapshot_eq_of_stamp_eq (h : bs <+: as)
    (hstamp : (run as).store.snapshot.stamp = (run bs).store.snapshot.stamp) :
  (run as).store.snapshot = (run bs).store.snapshot
  := by
  apply snapshot_eq h
  rw [published_iff h, not_not]
  exact hstamp

/-! ### What becomes of an observer -/

/-- An observer after an action, as the one with a number. -/
def next (s : Watch) (i : Nat) (o : Observer) : Action → Observer
  | .get j => if j = i then (o.get s.store).2 else o
  | .poll j => if j = i then (o.poll s.store).2 else o
  | _ => o

variable {i : Nat} {o : Observer}

theorem getElem?_perform (h : s.observers[i]? = some o) (a : Action) :
  (s.perform a).observers[i]? = some (s.next i o a)
  := by
  cases a with
  | write w =>
    rw [perform]
    split <;> exact h
  | drop => exact h
  | observe t view? =>
    rw [perform]
    split
    · dsimp only
      rw [List.getElem?_append_left (List.getElem?_eq_some_iff.1 h).1, h]
      rfl
    · exact h
  | get j =>
    rw [perform, List.getElem?_modify, h, next]
    split <;> rfl
  | poll j =>
    rw [perform, List.getElem?_modify, h, next]
    split <;> rfl

/-- A new observer comes after those that are there. -/
theorem getElem?_observe {t : Topic} {view? : Option Nat} {seen : Nat}
    (h : s.origin? view? = some seen) :
  (s.perform (.observe t view?)).observers[s.observers.length]? = some (t.observe s.store seen)
  := by
  rw [perform, h]
  apply List.getElem?_concat_length

/-- An observer was there before an action, unless the action has made it. -/
theorem observer_cases (h : (s.perform a).observers[i]? = some o) :
  (∃ o', s.observers[i]? = some o')
    ∨ ∃ t view? seen, a = .observe t view? ∧ s.origin? view? = some seen
      ∧ i = s.observers.length
  := by
  by_cases hlt : i < s.observers.length
  · left
    use s.observers[i]
    apply List.getElem?_eq_getElem hlt
  · right
    have hlen := (List.getElem?_eq_some_iff.1 h).1
    cases a with
    | observe t view? =>
      rw [perform] at hlen
      split at hlen
      · rename_i seen horigin
        use t, view?, seen, rfl, horigin
        rw [List.length_append, List.length_singleton] at hlen
        omega
      · omega
    | write w =>
      rw [perform] at hlen
      split at hlen <;> exact (hlt hlen).elim
    | drop => exact (hlt hlen).elim
    | get j =>
      rw [perform, List.length_modify] at hlen
      exact (hlt hlen).elim
    | poll j =>
      rw [perform, List.length_modify] at hlen
      exact (hlt hlen).elim

end Watch

end Extrinsics
