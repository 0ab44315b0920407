import Extrinsics.Record
import Extrinsics.Table

/-!
# Snapshots

A snapshot holds the records known at one moment. Snapshots never change: a write makes a
new one, which shares every record with the old one except the record it writes. Snapshots
and stored records have stamps, and of two that descend from one history those with the
same stamp are one and the same object. A write to a record that is not there makes no new
snapshot.
-/

namespace Extrinsics

/-- A record as it is stored, with its stamp. -/
structure StoredRecord where
  stamp : Nat
  record : Record

/-- The records known at one moment by the hashes of their extrinsics. -/
structure Snapshot where
  stamp : Nat
  cells : Table StoredRecord

namespace Snapshot

/-- A snapshot without records. -/
def empty (stamp : Nat) : Snapshot := ⟨stamp, .empty⟩

/-- The record at a hash. -/
def record? (m : Snapshot) (hash : String) : Option Record :=
  (m.cells.get? hash).map StoredRecord.record

/-- All records by their hashes. -/
def records (m : Snapshot) : Table Record := m.cells.map StoredRecord.record

/-- The hashes whose records two snapshots share. -/
def shared (m m' : Snapshot) : List String :=
  m'.cells.keys.filter fun hash =>
    match m.cells.get? hash, m'.cells.get? hash with
    | some a, some b => a.stamp == b.stamp
    | _, _ => false

/-- Whether two tables of records have the same contents. -/
def sameRecords : List (String × Record) → List (String × Record) → Bool
  | [], [] => true
  | (k, a) :: l, (k', b) :: m => k == k' && a.same b && sameRecords l m
  | _, _ => false

/-- Whether two snapshots have the same contents. -/
def same (m m' : Snapshot) : Bool := sameRecords m.records.entries m'.records.entries

end Snapshot

/-- A write to the record at a hash. -/
inductive Write where
  /-- Put a record there, whether or not there is one. -/
  | add (hash : String) (record : Record)
  | status (hash : String) (status : Status)
  /-- Note that the extrinsic failed to run. -/
  | error (hash message : String)
  /-- Note that a block includes the extrinsic. -/
  | block (hash block : String)

namespace Write

/-- The hash a write goes to. -/
def key : Write → String
  | add hash _ => hash
  | status hash _ => hash
  | error hash _ => hash
  | block hash _ => hash

/-- The kind of a write, its hash, and what it writes into a record. -/
def words : Write → List String
  | add hash _ => ["add", hash]
  | status hash s => ["status", hash, s.name]
  | error hash message => ["error", hash, message]
  | block hash b => ["block", hash, b]

/-- What a write makes of the record at its hash, if it changes anything. -/
def revise : Write → Option Record → Option Record
  | add _ record, _ => some record
  | status _ s, old => old.map (Record.withStatus s)
  | error _ message, old => old.map (Record.failed message)
  | block _ b, old => old.map (Record.included b)

end Write

/-- The snapshot after a write. A new snapshot and the record in it get the stamp
`fresh`. -/
def Snapshot.apply (fresh : Nat) (m : Snapshot) (w : Write) : Snapshot :=
  match w.revise (m.record? w.key) with
  | none => m
  | some r => ⟨fresh, m.cells.insert w.key ⟨fresh, r⟩⟩

end Extrinsics
