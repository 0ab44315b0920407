import Extrinsics.Proofs.Store.Query
import Extrinsics.Proofs.Text.Octets

/-!
# Exact queries

A query goes through the records of a snapshot in the order of their hashes. Of the records of a
family that are under way it finds the one with the least timestamp, and of those with the same
timestamp the one with the least hash. A stable sort by timestamps, and then a search for the first
record that is under way, finds the same record.
-/

namespace Extrinsics

/-- Whether a record was created no later than another. -/
def Record.isNoLater (a b : Record) : Bool := decide (a.timestamp ≤ b.timestamp)

theorem Record.isNoLater_trans (a b c : Record) (hab : a.isNoLater b) (hbc : b.isNoLater c) :
  a.isNoLater c
  := by
  apply decide_eq_true
  apply BitVec.le_trans (of_decide_eq_true hab) (of_decide_eq_true hbc)

theorem Record.isNoLater_total (a b : Record) :
  a.isNoLater b || b.isNoLater a
  := by
  rw [isNoLater, isNoLater, Bool.or_eq_true, decide_eq_true_iff, decide_eq_true_iff]
  apply BitVec.le_total

theorem Status.isPending_iff {s : Status} :
  s.isPending ↔ s = .ready ∨ s = .inBlock
  := by
  cases s <;> decide

namespace Snapshot

/-- A record of a family that is under way, with the hash at which it is stored. -/
structure IsPendingAt (m : Snapshot) (s : Signature) (hash : String) (r : Record) : Prop where
  record?_eq : m.record? hash = some r
  signature_eq : r.signature = s
  status_eq : r.status = .ready ∨ r.status = .inBlock

/-- The record of a family that is under way with the least timestamp. Of those with one timestamp
it is the one with the least hash, by octets. -/
structure IsOldest (m : Snapshot) (s : Signature) (hash : String) (r : Record) : Prop
    extends m.IsPendingAt s hash r where
  least : ∀ hash' r', m.IsPendingAt s hash' r' →
    r.timestamp < r'.timestamp
      ∨ r.timestamp = r'.timestamp ∧ Text.octets hash ≤ Text.octets hash'

variable {m : Snapshot} {s : Signature} {hash hash' : String} {r r' : Record}

/-! ### The earliest of a list -/

/-- Records before the earliest one are later, and those behind it are no earlier. -/
theorem exists_of_earliest {l : List Record} (h : earliest l = some r) :
  ∃ l₁ l₂, l = l₁ ++ r :: l₂
    ∧ (∀ a ∈ l₁, r.timestamp < a.timestamp) ∧ ∀ a ∈ l₂, r.timestamp ≤ a.timestamp
  := by
  induction l generalizing r with
  | nil => cases h
  | cons b l ih =>
    rw [earliest] at h
    cases hl : earliest l with
    | none =>
      rw [hl] at h
      cases h
      rw [(earliest_eq_none_iff l).1 hl]
      use [], [], rfl
      simp
    | some e =>
      obtain ⟨l₁, l₂, rfl, hbefore, hbehind⟩ := ih hl
      rw [hl] at h
      dsimp only at h
      split_ifs at h with hlt
      · cases h
        use b :: l₁, l₂, rfl
        use List.forall_mem_cons.2 ⟨hlt, hbefore⟩, hbehind
      · cases h
        -- The list is no earlier than its earliest record, which is no earlier than `b`.
        have hle := BitVec.not_lt.1 hlt
        use [], l₁ ++ e :: l₂, rfl
        use fun _ ha => (List.not_mem_nil ha).elim
        intro a ha
        rcases List.mem_append.1 ha with ha | ha
        · apply BitVec.le_trans hle (BitVec.le_of_lt (hbefore a ha))
        · rcases List.mem_cons.1 ha with rfl | ha
          · exact hle
          · apply BitVec.le_trans hle (hbehind a ha)

/-- A stable sort by timestamps, and a search. -/
theorem find?_mergeSort (p : Record → Bool) (l : List Record) :
  (l.mergeSort Record.isNoLater).find? p = earliest (l.filter p)
  := by
  induction l with
  | nil =>
    rw [List.mergeSort_nil]
    rfl
  | cons b l ih =>
    obtain ⟨l₁, l₂, hsort, hrest, hbefore⟩ :=
      List.mergeSort_cons Record.isNoLater_trans Record.isNoLater_total b l
    have hsorted := List.pairwise_mergeSort Record.isNoLater_trans Record.isNoLater_total (b :: l)
    rw [hsort] at hsorted ⊢
    rw [hrest, List.find?_append] at ih
    rw [List.find?_append, List.find?_cons]
    cases hp : p b with
    | false => rw [List.filter_cons_of_neg (by simp [hp]), ih]
    | true =>
      rw [List.filter_cons_of_pos hp, earliest, ← ih]
      cases h₁ : l₁.find? p with
      | some e =>
        have hlt : e.timestamp < b.timestamp := by
          simpa [Record.isNoLater] using hbefore e (List.mem_of_find?_eq_some h₁)
        simp [hlt]
      | none =>
        cases h₂ : l₂.find? p with
        | none => rfl
        | some e =>
          have hle := (List.pairwise_cons.1 (List.pairwise_append.1 hsorted).2.1).1 e
            (List.mem_of_find?_eq_some h₂)
          have hnot : ¬ e.timestamp < b.timestamp := BitVec.not_lt.2 (of_decide_eq_true hle)
          simp [hnot]

/-! ### Entries in order -/

theorem mem_entries_records_iff :
  (hash, r) ∈ m.records.entries ↔ m.record? hash = some r
  := by
  rw [Table.mem_entries_iff, records, Table.get?_map]
  rfl

/-- The records of a family that are under way with their hashes, in the order of these. -/
def pendingEntries (m : Snapshot) (s : Signature) : List (String × Record) :=
  m.records.entries.filter fun e => e.2.status.isPending && e.2.signature == s

theorem mem_pendingEntries_iff :
  (hash, r) ∈ m.pendingEntries s ↔ m.IsPendingAt s hash r
  := by
  rw [pendingEntries, List.mem_filter, mem_entries_records_iff, Bool.and_eq_true,
    Status.isPending_iff, beq_iff_eq]
  constructor
  · rintro ⟨hr, hstatus, hs⟩
    exact ⟨hr, hs, hstatus⟩
  · rintro ⟨hr, hs, hstatus⟩
    exact ⟨hr, hstatus, hs⟩

theorem oldestPending_eq (m : Snapshot) (s : Signature) :
  m.oldestPending s = earliest ((m.pendingEntries s).map Prod.snd)
  := by
  rw [oldestPending, calls, List.filter_filter, Table.values, List.filter_map]
  rfl

/-- What a query finds comes before every other record that is under way. -/
theorem exists_isOldest (h : m.oldestPending s = some r) :
  ∃ hash, m.IsOldest s hash r
  := by
  rw [oldestPending_eq] at h
  obtain ⟨l₁, l₂, hl, hbefore, hbehind⟩ := exists_of_earliest h
  obtain ⟨e₁, e₂, he, rfl, he₂⟩ := List.map_eq_append_iff.1 hl
  obtain ⟨⟨hash, r⟩, e₂, rfl, rfl, rfl⟩ := List.map_eq_cons_iff.1 he₂
  have hascending : (e₁ ++ (hash, r) :: e₂).Pairwise fun a b => a.1 < b.1 := by
    rw [← he]
    apply m.records.ascending.filter
  use hash
  constructor
  · apply mem_pendingEntries_iff.1
    rw [he]
    apply List.mem_append_right _ List.mem_cons_self
  · intro hash' r' hr'
    rw [← mem_pendingEntries_iff, he, List.mem_append, List.mem_cons] at hr'
    rcases hr' with hr' | heq | hr'
    · left
      apply hbefore r' (List.mem_map_of_mem hr')
    · cases heq
      right
      use rfl
      apply List.le_refl
    · have hlt := (List.pairwise_cons.1 (List.pairwise_append.1 hascending).2.1).1 _ hr'
      have hle := hbehind r' (List.mem_map_of_mem hr')
      by_cases hsame : r.timestamp = r'.timestamp
      · right
        use hsame
        rw [Text.octets_le_iff]
        apply le_of_lt hlt
      · left
        apply BitVec.lt_of_le_ne hle hsame

/-- There is one oldest record, at one hash. -/
theorem IsOldest.eq (h : m.IsOldest s hash r) (h' : m.IsOldest s hash' r') :
  r = r'
  := by
  have hhash : hash = hash' := by
    rcases h.least hash' r' h'.toIsPendingAt with hlt | ⟨hsame, hle⟩
    · rcases h'.least hash r h.toIsPendingAt with hlt' | ⟨hsame', -⟩
      · exact (BitVec.lt_asymm hlt hlt').elim
      · rw [hsame'] at hlt
        exact (BitVec.lt_irrefl _ hlt).elim
    · rcases h'.least hash r h.toIsPendingAt with hlt' | ⟨-, hle'⟩
      · rw [hsame] at hlt'
        exact (BitVec.lt_irrefl _ hlt').elim
      · rw [Text.octets_le_iff] at hle hle'
        apply le_antisymm hle hle'
  have hr := h.record?_eq
  rw [hhash, h'.record?_eq] at hr
  apply (Option.some.inj hr).symm

theorem isPending_iff_exists :
  m.isPending s ↔ ∃ hash r, m.IsPendingAt s hash r
  := by
  rw [isPending_iff]
  constructor
  · rintro ⟨hash, r, hr, hs, hstatus⟩
    use hash, r, hr, hs, Status.isPending_iff.1 hstatus
  · rintro ⟨hash, r, hr, hs, hstatus⟩
    use hash, r, hr, hs, Status.isPending_iff.2 hstatus

theorem oldestPending_eq_some_iff :
  m.oldestPending s = some r ↔ ∃ hash, m.IsOldest s hash r
  := by
  constructor
  · apply exists_isOldest
  · rintro ⟨hash, h⟩
    have hsome : m.isPending s := isPending_iff_exists.2 ⟨hash, r, h.toIsPendingAt⟩
    obtain ⟨r', hr'⟩ := Option.isSome_iff_exists.1 hsome
    obtain ⟨hash', h'⟩ := exists_isOldest hr'
    rw [hr', h'.eq h]

/-- The hashes of the records of a family, in their order. -/
def callHashes (m : Snapshot) (s : Signature) : List String :=
  (m.records.entries.filter fun e => e.2.signature == s).map Prod.fst

theorem pairwise_callHashes (m : Snapshot) (s : Signature) :
  (m.callHashes s).Pairwise fun hash hash' => Text.octets hash < Text.octets hash'
  := by
  simp only [Text.octets_lt_iff]
  apply List.pairwise_map.2 (m.records.ascending.filter _)

theorem mem_callHashes_iff :
  hash ∈ m.callHashes s ↔ ∃ r, m.record? hash = some r ∧ r.signature = s
  := by
  rw [callHashes, List.mem_map]
  constructor
  · rintro ⟨⟨hash, r⟩, hmem, rfl⟩
    obtain ⟨hentry, hs⟩ := List.mem_filter.1 hmem
    use r, mem_entries_records_iff.1 hentry, eq_of_beq hs
  · rintro ⟨r, hr, hs⟩
    use (hash, r), List.mem_filter.2 ⟨mem_entries_records_iff.2 hr, beq_iff_eq.2 hs⟩

theorem map_some_calls (m : Snapshot) (s : Signature) :
  (m.calls s).map some = (m.callHashes s).map m.record?
  := by
  rw [calls, Table.values, List.filter_map, List.map_map, callHashes, List.map_map]
  apply List.map_congr_left
  rintro ⟨hash, r⟩ hmem
  apply (mem_entries_records_iff.1 (List.mem_filter.1 hmem).1).symm

/-- What a snapshot tells of a family of calls: the oldest record that is under way, if there is
one, as a stable sort by timestamps and a search find it too; whether there is one; and all
records, in the order of their hashes by octets, each once. -/
theorem queries_exact (m : Snapshot) (s : Signature) :
  ((m.oldestPending s).isSome ↔ ∃ hash r, m.IsPendingAt s hash r)
    ∧ (∀ r, m.oldestPending s = some r ↔ ∃ hash, m.IsOldest s hash r)
    ∧ m.oldestPending s
      = ((m.calls s).mergeSort Record.isNoLater).find? (fun r => r.status.isPending)
    ∧ (m.isPending s ↔ ∃ hash r, m.IsPendingAt s hash r)
    ∧ ∃ hashes : List String,
      hashes.Pairwise (fun hash hash' => Text.octets hash < Text.octets hash')
        ∧ (∀ hash, hash ∈ hashes ↔ ∃ r, m.record? hash = some r ∧ r.signature = s)
        ∧ (m.calls s).map some = hashes.map m.record?
  := by
  refine ⟨isPending_iff_exists, fun r => oldestPending_eq_some_iff, ?_, isPending_iff_exists,
    m.callHashes s, m.pairwise_callHashes s, fun hash => mem_callHashes_iff, m.map_some_calls s⟩
  rw [find?_mergeSort, oldestPending]

end Snapshot

end Extrinsics
