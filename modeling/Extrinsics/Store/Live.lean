import Extrinsics.Store.Query
import Extrinsics.Text.Quoted

/-!
# The live store and its observers

The store keeps the current snapshot. An observer remembers the last snapshot it has seen
by its stamp, so that it can tell whether the store has moved on; it stays usable when the
store is gone. A derived observer also keeps a value computed from a snapshot, and computes
it again only when it is asked for it and the store has moved on.
-/

namespace Extrinsics

/-- The store: its current snapshot, and whether it can still be written to. -/
structure Store where
  snapshot : Snapshot
  isLive : Bool

namespace Store

/-- The store without records. -/
def empty : Store := ⟨.empty 0, true⟩

/-- The store after a write. -/
def write (s : Store) (w : Write) : Store :=
  { s with snapshot := s.snapshot.apply (s.snapshot.stamp + 1) w }

/-- The store after its owner has dropped it. Its last snapshot stays with the observers. -/
def drop (s : Store) : Store := { s with isLive := false }

end Store

/-- What one look for a new snapshot finds. -/
inductive Arrival where
  /-- A snapshot that has not been seen. -/
  | changed
  /-- Nothing yet. -/
  | pending
  /-- Nothing, and the store is gone. -/
  | gone
deriving DecidableEq

/-- A look for a snapshot other than the one last seen, and the stamp seen after it. -/
def Store.poll (s : Store) (seen : Nat) : Arrival × Nat :=
  if s.snapshot.stamp ≠ seen then (.changed, s.snapshot.stamp)
  else if s.isLive then (.pending, seen)
  else (.gone, seen)

/-- Whether there is a snapshot other than the one last seen, unless the store is gone. -/
def Store.hasChanged? (s : Store) (seen : Nat) : Option Bool :=
  if s.isLive then some (s.snapshot.stamp != seen) else none

/-- An observer of a value computed from the snapshots for a family of calls. -/
structure Derived (α : Type) where
  signature : Signature
  compute : Snapshot → Signature → α
  /-- The stamp of the snapshot last seen. -/
  seen : Nat
  /-- The stamp of the snapshot the value was computed from. -/
  source : Nat
  value : α

namespace Derived

variable {α : Type}

/-- An observer that starts from the current snapshot, with a given stamp counting as
seen. -/
def ofStore (compute : Snapshot → Signature → α) (s : Store) (seen : Nat)
    (signature : Signature) : Derived α :=
  ⟨signature, compute, seen, s.snapshot.stamp, compute s.snapshot signature⟩

/-- Whether the store has moved on since the value was computed. -/
def isStale (d : Derived α) (s : Store) : Bool := s.snapshot.stamp != d.source

/-- The observer with the value for the current snapshot, which counts as seen. -/
def refresh (d : Derived α) (s : Store) : Derived α :=
  if d.isStale s then
    { d with
      seen := s.snapshot.stamp
      source := s.snapshot.stamp
      value := d.compute s.snapshot d.signature }
  else { d with seen := s.snapshot.stamp }

end Derived

/-- An observer of a store. -/
inductive Observer where
  /-- A view of the whole store. Reading it marks nothing as seen. -/
  | view (seen : Nat)
  /-- A plain receiver of snapshots. -/
  | receiver (seen : Nat)
  /-- Whether a call of a family is under way. -/
  | pending (d : Derived Bool)
  /-- The records of a family of calls. -/
  | calls (d : Derived (List Record))

/-- What an observer reads from a store. -/
inductive Reading where
  | all (records : Table Record)
  | flag (b : Bool)
  | records (l : List Record)

namespace Observer

/-- The stamp of the snapshot last seen. -/
def seen : Observer → Nat
  | view seen => seen
  | receiver seen => seen
  | pending d => d.seen
  | calls d => d.seen

/-- The observer with another stamp counting as seen. -/
def mark (stamp : Nat) : Observer → Observer
  | view _ => view stamp
  | receiver _ => receiver stamp
  | pending d => pending { d with seen := stamp }
  | calls d => calls { d with seen := stamp }

/-- The present value of an observer, and the observer after reading it. -/
def get (s : Store) : Observer → Reading × Observer
  | view seen => (.all s.snapshot.records, view seen)
  | receiver _ => (.all s.snapshot.records, receiver s.snapshot.stamp)
  | pending d => (.flag (d.refresh s).value, pending (d.refresh s))
  | calls d => (.records (d.refresh s).value, calls (d.refresh s))

/-- One look for a new snapshot, which then counts as seen. -/
def poll (s : Store) (o : Observer) : Arrival × Observer :=
  let (arrival, seen) := s.poll o.seen
  (arrival, o.mark seen)

/-- Whether the value of an observer is that of an earlier snapshot. -/
def isStale (s : Store) : Observer → Bool
  | pending d => d.isStale s
  | calls d => d.isStale s
  | o => s.snapshot.stamp != o.seen

/-- The family of calls an observer is about. -/
def signature? : Observer → Option Signature
  | pending d => some d.signature
  | calls d => some d.signature
  | _ => none

/-- A description of an observer of one family of calls, with its present value. -/
def describe (value : String) (s : Signature) : String :=
  "Derived \x7b signature: CallSignature \x7b method: " ++ Text.quoted s.method
    ++ ", section: " ++ Text.quoted s.pallet ++ ", sender: " ++ Text.quoted s.sender
    ++ " \x7d, value: " ++ value ++ ", .. \x7d"

/-- The description of an observer of pending calls. -/
def describe? : Observer → Option String
  | pending d => some (describe (if d.value then "true" else "false") d.signature)
  | _ => none

end Observer

end Extrinsics
