import Extrinsics.Store.Snapshot

/-!
# Queries

What a snapshot tells of one family of calls.
-/

namespace Extrinsics.Snapshot

/-- The records of a family of calls, in the order of their hashes. -/
def calls (m : Snapshot) (s : Signature) : List Record :=
  m.records.values.filter fun r => r.signature == s

/-- The first of the records with the least timestamp. -/
def earliest : List Record → Option Record
  | [] => none
  | r :: rest =>
    match earliest rest with
    | none => some r
    | some e => if e.timestamp < r.timestamp then some e else some r

/-- The oldest record of a family that is still under way. -/
def oldestPending (m : Snapshot) (s : Signature) : Option Record :=
  earliest ((m.calls s).filter fun r => r.status.isPending)

/-- Whether any record of a family is still under way. -/
def isPending (m : Snapshot) (s : Signature) : Bool := (m.oldestPending s).isSome

end Extrinsics.Snapshot
