import Extrinsics.Store.Snapshot

/-!
# Archives

An archive keeps snapshots under names. A write takes one of them and puts the result under
another name or the same.
-/

namespace Extrinsics

/-- Snapshots by name, with the least stamp that no snapshot has. -/
structure Archive where
  next : Nat
  named : Table Snapshot

namespace Archive

/-- The archive without snapshots. -/
def empty : Archive := ⟨0, .empty⟩

/-- The snapshot under a name. An unknown name stands for a new one without records. -/
def take (a : Archive) (name : String) : Archive × Snapshot :=
  match a.named.get? name with
  | some m => (a, m)
  | none => ({ a with next := a.next + 1 }, .empty a.next)

/-- A write to the snapshot under one name, the result going under another: the archive
after it, and the snapshots before and after. -/
def write (a : Archive) (source target : String) (w : Write) : Archive × Snapshot × Snapshot :=
  let (a, before) := a.take source
  let after := before.apply a.next w
  (⟨a.next + 1, a.named.insert target after⟩, before, after)

end Archive

end Extrinsics
