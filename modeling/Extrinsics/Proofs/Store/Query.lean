import Extrinsics.Proofs.Table
import Extrinsics.Store.Query

/-!
# Queries as statements about records

The oldest record of a family that is under way exists exactly when the family has a record
that is under way. So the order in which a query goes through the records does not matter for
whether a family is pending.
-/

namespace Extrinsics.Snapshot

variable (m : Snapshot) (s : Signature)

theorem earliest_eq_none_iff (l : List Record) :
  earliest l = none ↔ l = []
  := by
  cases l with
  | nil => simp [earliest]
  | cons r rest =>
    rw [earliest]
    cases earliest rest with
    | none => simp
    | some e =>
      dsimp only
      split <;> simp

/-- The records of a family are those of the snapshot that belong to it. -/
theorem mem_calls_iff (r : Record) :
  r ∈ m.calls s ↔ (∃ k, m.record? k = some r) ∧ r.signature = s
  := by
  rw [calls, List.mem_filter, beq_iff_eq]
  apply and_congr_left'
  rw [Table.values, List.mem_map]
  constructor
  · rintro ⟨⟨k, r'⟩, hmem, rfl⟩
    use k
    rw [record?, ← Table.get?_map]
    apply (Table.mem_entries_iff _ _ _).1 hmem
  · rintro ⟨k, hr⟩
    use (k, r)
    rw [record?, ← Table.get?_map] at hr
    use (Table.mem_entries_iff _ _ _).2 hr

/-- A family of calls is pending when one of its records is under way. -/
theorem isPending_iff :
  m.isPending s ↔ ∃ k r, m.record? k = some r ∧ r.signature = s ∧ r.status.isPending
  := by
  rw [isPending, oldestPending, Option.isSome_iff_ne_none, Ne, earliest_eq_none_iff,
    List.filter_eq_nil_iff]
  push Not
  constructor
  · rintro ⟨r, hmem, hpending⟩
    obtain ⟨⟨k, hr⟩, hs⟩ := (m.mem_calls_iff s r).1 hmem
    use k, r, hr, hs
  · rintro ⟨k, r, hr, hs, hpending⟩
    use r, (m.mem_calls_iff s r).2 ⟨⟨k, hr⟩, hs⟩

end Extrinsics.Snapshot
