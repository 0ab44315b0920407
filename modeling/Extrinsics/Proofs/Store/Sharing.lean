import Extrinsics.Proofs.Store.Replay
import Extrinsics.Proofs.Store.Watching
import Extrinsics.Samples

/-!
# Sharing

Writes are applied to a snapshot one after the other. The record at a hash is what the writes to
that hash make of it, so that writes to different hashes commute. A record is the same object as
before until a write goes to its hash, and the snapshot is the same object until a write takes. An
object that two moments have in common is the same at both: nothing is changed in place.
-/

namespace Extrinsics.Snapshot

/-- A snapshot after writes, one after the other. What they make has stamps from `n` on. -/
def applyAll (n : Nat) (m : Snapshot) : List Write → Snapshot
  | [] => m
  | w :: ws => applyAll (n + 1) (m.apply n w) ws

/-- The objects of a snapshot have stamps below `n`, and each stamp is that of one record. -/
structure IsNumbered (n : Nat) (m : Snapshot) : Prop where
  stamp_lt : m.stamp < n
  cell_lt : ∀ k a, m.cells.get? k = some a → a.stamp < n
  eq_of_stamp_eq : ∀ k k' a b, m.cells.get? k = some a → m.cells.get? k' = some b →
    a.stamp = b.stamp → a = b

variable {n : Nat} {m : Snapshot} {w : Write} {ws : List Write} {k : String}

theorem applyAll_append (n : Nat) (m : Snapshot) (ws ws' : List Write) :
  m.applyAll n (ws ++ ws') = (m.applyAll n ws).applyAll (n + ws.length) ws'
  := by
  induction ws generalizing n m with
  | nil => rfl
  | cons w ws ih =>
    rw [List.cons_append, applyAll, ih, applyAll, List.length_cons, Nat.add_right_comm,
      Nat.add_assoc]

/-! ### One write -/

theorem apply_of_not_takes (n : Nat) (h : ¬ m.Takes w) :
  m.apply n w = m
  := by
  rw [← isSome_revise_iff, Option.not_isSome_iff_eq_none] at h
  rw [apply, h]

theorem stamp_apply_of_takes (n : Nat) (h : m.Takes w) :
  (m.apply n w).stamp = n
  := by
  rw [← isSome_revise_iff] at h
  obtain ⟨r, hr⟩ := Option.isSome_iff_exists.1 h
  rw [apply, hr]

/-- A write leaves a new object at its hash, and elsewhere what is there. -/
theorem get?_apply (n : Nat) (m : Snapshot) (w : Write) (k : String) :
  (m.apply n w).cells.get? k
    = if w.key = k then (w.revise (m.record? k)).map (StoredRecord.mk n) else m.cells.get? k
  := by
  rw [apply]
  split_ifs with hk
  · subst hk
    cases h : w.revise (m.record? w.key) with
    | some r => simp
    | none =>
      -- A write that changes nothing has met no record.
      have hnone : m.record? w.key = none := by
        cases w <;> simp_all [Write.revise]
      rw [record?, Option.map_eq_none_iff] at hnone
      rw [Option.map_none, hnone]
  · cases w.revise (m.record? w.key) with
    | some r => rw [Table.get?_insert, if_neg hk]
    | none => rfl

/-- Only the putting of a record makes a new entry. -/
theorem isSome_record?_apply (n : Nat) (m : Snapshot) (w : Write) (k : String) :
  ((m.apply n w).record? k).isSome ↔ (m.record? k).isSome ∨ ∃ r, w = .add k r
  := by
  rw [record?_apply]
  split_ifs with hk
  · subst hk
    cases w <;> simp [Write.key, Write.revise]
  · have hnone : ¬ ∃ r, w = .add k r := by
      rintro ⟨r, rfl⟩
      apply hk rfl
    rw [or_iff_left hnone]

theorem IsNumbered.mono (h : m.IsNumbered n) {n' : Nat} (hn : n ≤ n') :
  m.IsNumbered n'
  where
  stamp_lt := Nat.lt_of_lt_of_le h.stamp_lt hn
  cell_lt := fun k a ha => Nat.lt_of_lt_of_le (h.cell_lt k a ha) hn
  eq_of_stamp_eq := h.eq_of_stamp_eq

theorem isNumbered_empty (n : Nat) :
  (empty n).IsNumbered (n + 1)
  where
  stamp_lt := Nat.lt_succ_self n
  cell_lt := by
    rintro k a ⟨⟩
  eq_of_stamp_eq := by
    rintro k k' a b ⟨⟩

/-- The record that a write leaves at a hash is a new object, or it was there. -/
theorem get?_apply_cases {a : StoredRecord} (h : (m.apply n w).cells.get? k = some a) :
  (w.key = k ∧ a.stamp = n) ∨ (w.key ≠ k ∧ m.cells.get? k = some a)
  := by
  rw [get?_apply] at h
  split_ifs at h with hk
  · obtain ⟨r, -, rfl⟩ := Option.map_eq_some_iff.1 h
    left
    use hk
  · right
    use hk

theorem IsNumbered.apply (h : m.IsNumbered n) (w : Write) :
  (m.apply n w).IsNumbered (n + 1)
  where
  stamp_lt := by
    by_cases hw : m.Takes w
    · rw [stamp_apply_of_takes n hw]
      apply Nat.lt_succ_self
    · rw [apply_of_not_takes n hw]
      apply Nat.lt_succ_of_lt h.stamp_lt
  cell_lt := by
    intro k a ha
    rcases get?_apply_cases ha with ⟨-, hstamp⟩ | ⟨-, hcell⟩
    · rw [hstamp]
      apply Nat.lt_succ_self
    · apply Nat.lt_succ_of_lt (h.cell_lt k a hcell)
  eq_of_stamp_eq := by
    intro k k' a b ha hb hstamp
    rcases get?_apply_cases ha with ⟨hk, hnew⟩ | ⟨-, hcell⟩
    · rcases get?_apply_cases hb with ⟨hk', -⟩ | ⟨-, hcell'⟩
      · -- Both are the record of the write.
        rw [← hk', hk, ha] at hb
        apply Option.some.inj hb
      · have hlt := h.cell_lt k' b hcell'
        omega
    · rcases get?_apply_cases hb with ⟨-, hnew⟩ | ⟨-, hcell'⟩
      · have hlt := h.cell_lt k a hcell
        omega
      · apply h.eq_of_stamp_eq k k' a b hcell hcell' hstamp

/-! ### Writes one after the other -/

theorem isNumbered_applyAll (h : m.IsNumbered n) (ws : List Write) :
  (m.applyAll n ws).IsNumbered (n + ws.length)
  := by
  induction ws generalizing n m with
  | nil => exact h
  | cons w ws ih =>
    rw [applyAll, List.length_cons, Nat.add_comm ws.length, ← Nat.add_assoc]
    apply ih (h.apply w)

/-- The record at a hash is what the writes to the hash make of it. -/
theorem record?_applyAll (n : Nat) (m : Snapshot) (ws : List Write) (k : String) :
  (m.applyAll n ws).record? k = Write.reviseAll k ws (m.record? k)
  := by
  induction ws generalizing n m with
  | nil => rfl
  | cons w ws ih => rw [applyAll, ih, record?_apply, Write.reviseAll_cons]

/-- There is a record at a hash if there was one, or if one was put there. -/
theorem isSome_record?_applyAll (n : Nat) (m : Snapshot) (ws : List Write) (k : String) :
  ((m.applyAll n ws).record? k).isSome ↔ (m.record? k).isSome ∨ ∃ r, .add k r ∈ ws
  := by
  induction ws generalizing n m with
  | nil => simp [applyAll]
  | cons w ws ih =>
    rw [applyAll, ih, isSome_record?_apply, or_assoc, ← exists_or]
    simp only [List.mem_cons, eq_comm (a := w)]

/-- The snapshot is the one from before, or it is new. -/
theorem applyAll_cases (n : Nat) (m : Snapshot) (ws : List Write) :
  m.applyAll n ws = m ∨ n ≤ (m.applyAll n ws).stamp
  := by
  induction ws generalizing n m with
  | nil =>
    left
    rfl
  | cons w ws ih =>
    rw [applyAll]
    by_cases hw : m.Takes w
    · right
      rcases ih (n + 1) (m.apply n w) with heq | hle
      · rw [heq, stamp_apply_of_takes n hw]
      · omega
    · rw [apply_of_not_takes n hw]
      rcases ih (n + 1) m with heq | hle
      · left
        exact heq
      · right
        omega

/-- A record at a hash is the one from before, or it is new. -/
theorem get?_applyAll_cases {b : StoredRecord} (h : (m.applyAll n ws).cells.get? k = some b) :
  m.cells.get? k = some b ∨ n ≤ b.stamp
  := by
  induction ws generalizing n m with
  | nil =>
    left
    exact h
  | cons w ws ih =>
    rcases ih h with hcell | hle
    · rcases get?_apply_cases hcell with ⟨-, hstamp⟩ | ⟨-, hold⟩
      · right
        exact hstamp.ge
      · left
        exact hold
    · right
      omega

/-- Where no write goes the record stays. -/
theorem get?_applyAll_of_forall_ne (n : Nat) (m : Snapshot) (h : ∀ w ∈ ws, w.key ≠ k) :
  (m.applyAll n ws).cells.get? k = m.cells.get? k
  := by
  induction ws generalizing n m with
  | nil => rfl
  | cons w ws ih =>
    rw [applyAll, ih _ _ fun w' hw' => h w' (List.mem_cons_of_mem _ hw'), get?_apply,
      if_neg (h w List.mem_cons_self)]

/-- Where a write goes the record is new. -/
theorem le_stamp_of_mem (hw : w ∈ ws) {b : StoredRecord}
    (h : (m.applyAll n ws).cells.get? w.key = some b) :
  n ≤ b.stamp
  := by
  obtain ⟨ws₁, ws₂, rfl⟩ := List.append_of_mem hw
  rw [applyAll_append, applyAll] at h
  rcases get?_applyAll_cases h with hcell | hle
  · rcases get?_apply_cases hcell with ⟨-, hstamp⟩ | ⟨hne, -⟩
    · omega
    · exact (hne rfl).elim
  · omega

/-- A record is the same object exactly where no write goes. -/
theorem shares_iff (hm : m.IsNumbered n) (ws : List Write) {a : StoredRecord}
    (ha : m.cells.get? k = some a) :
  (∃ b, (m.applyAll n ws).cells.get? k = some b ∧ b.stamp = a.stamp) ↔ ∀ w ∈ ws, w.key ≠ k
  := by
  constructor
  · rintro ⟨b, hb, hstamp⟩ w hw rfl
    have hle := le_stamp_of_mem hw hb
    have hlt := hm.cell_lt _ a ha
    omega
  · intro h
    use a
    rw [get?_applyAll_of_forall_ne n m h]
    use ha

/-- The snapshot is the same object exactly when no write has taken. -/
theorem stamp_applyAll_eq_iff (hm : m.IsNumbered n) (ws : List Write) :
  (m.applyAll n ws).stamp = m.stamp
    ↔ ∀ ws₁ w ws₂, ws = ws₁ ++ w :: ws₂ → ¬ (m.applyAll n ws₁).Takes w
  := by
  constructor
  · rintro hstamp ws₁ w ws₂ rfl hw
    have hnew := stamp_apply_of_takes (n + ws₁.length) hw
    have hlt := hm.stamp_lt
    rw [applyAll_append, applyAll] at hstamp
    rcases applyAll_cases (n + ws₁.length + 1) ((m.applyAll n ws₁).apply (n + ws₁.length) w) ws₂
      with heq | hle
    · rw [heq] at hstamp
      omega
    · omega
  · intro h
    induction ws generalizing n with
    | nil => rfl
    | cons w ws ih =>
      have hw : m.apply n w = m := apply_of_not_takes n (h [] w ws rfl)
      rw [applyAll, hw]
      apply ih (hm.mono (Nat.le_succ n))
      rintro ws₁ w' ws₂ rfl
      have hrest := h (w :: ws₁) w' ws₂ rfl
      rwa [applyAll, hw] at hrest

/-- An object that two moments have in common is the same at both. -/
theorem eq_of_common (hm : m.IsNumbered n) (ws : List Write) :
  ((m.applyAll n ws).stamp = m.stamp → m.applyAll n ws = m)
    ∧ ∀ k k' a b, m.cells.get? k = some a → (m.applyAll n ws).cells.get? k' = some b →
      a.stamp = b.stamp → a = b
  := by
  constructor
  · intro hstamp
    have hlt := hm.stamp_lt
    rcases applyAll_cases n m ws with heq | hle
    · exact heq
    · omega
  · intro k k' a b ha hb hstamp
    have hlt := hm.cell_lt k a ha
    rcases get?_applyAll_cases hb with hold | hle
    · apply hm.eq_of_stamp_eq k k' a b ha hold hstamp
    · omega

/-- The order of writes to different hashes does not matter. -/
theorem records_applyAll_eq {ws' : List Write}
    (h : ∀ k, ws.filter (fun w => w.key = k) = ws'.filter fun w => w.key = k) (n n' : Nat)
    (m : Snapshot) :
  (m.applyAll n ws).records = (m.applyAll n' ws').records
  := by
  apply records_ext
  intro k
  rw [record?_applyAll, record?_applyAll, Write.reviseAll, h k, Write.reviseAll]

theorem filter_key_swap {w' : Write} (h : w.key ≠ w'.key) (ws₁ ws₂ : List Write) (k : String) :
  (ws₁ ++ w :: w' :: ws₂).filter (fun w => w.key = k)
    = (ws₁ ++ w' :: w :: ws₂).filter fun w => w.key = k
  := by
  rw [List.filter_append, List.filter_append]
  congr 1
  by_cases hw : w.key = k
  · have hw' : w'.key ≠ k := fun hk => h (hw.trans hk.symm)
    simp [hw, hw']
  · simp [hw, List.filter_cons]

/-- Writes to a snapshot, one after the other. The record at each hash is what the writes to that
hash make of it; where there was none, there is none until one is put. A record that was there is
the same object exactly if no write went to its hash. The snapshot is the same object exactly if
every write changed a record that was not there. An object that an earlier snapshot has in common
with a later one is the same in both. Two writes to different hashes may change places. -/
theorem applyAll_sharing (hm : m.IsNumbered n) (ws : List Write) :
  (∀ k, (m.applyAll n ws).record? k = Write.reviseAll k ws (m.record? k))
    ∧ (∀ k, ((m.applyAll n ws).record? k).isSome ↔ (m.record? k).isSome ∨ ∃ r, .add k r ∈ ws)
    ∧ (∀ k a, m.cells.get? k = some a →
      ((∃ b, (m.applyAll n ws).cells.get? k = some b ∧ b.stamp = a.stamp)
        ↔ ∀ w ∈ ws, w.key ≠ k))
    ∧ ((m.applyAll n ws).stamp = m.stamp
      ↔ ∀ ws₁ w ws₂, ws = ws₁ ++ w :: ws₂ → ¬ (m.applyAll n ws₁).Takes w)
    ∧ (∀ ws₁, ws₁ <+: ws →
      ((m.applyAll n ws).stamp = (m.applyAll n ws₁).stamp → m.applyAll n ws = m.applyAll n ws₁)
        ∧ ∀ k k' a b, (m.applyAll n ws₁).cells.get? k = some a →
          (m.applyAll n ws).cells.get? k' = some b → a.stamp = b.stamp → a = b)
    ∧ ∀ ws₁ w w' ws₂, ws = ws₁ ++ w :: w' :: ws₂ → w.key ≠ w'.key →
      (m.applyAll n ws).records = (m.applyAll n (ws₁ ++ w' :: w :: ws₂)).records
  := by
  refine ⟨record?_applyAll n m ws, isSome_record?_applyAll n m ws,
    fun k a ha => shares_iff hm ws ha, stamp_applyAll_eq_iff hm ws, ?_, ?_⟩
  · rintro ws₁ ⟨ws₂, rfl⟩
    rw [applyAll_append]
    apply eq_of_common (isNumbered_applyAll hm ws₁)
  · rintro ws₁ w w' ws₂ rfl hne
    apply records_applyAll_eq (filter_key_swap hne ws₁ ws₂)

end Extrinsics.Snapshot

namespace Extrinsics

namespace Samples

/-- A transfer and a claim are put. -/
def callWrites : List Write :=
  [.add "0x01" (.ready "0x01" transfer alice true 7), .add "0x02" (.ready "0x02" claim "" false 7)]

/-- A snapshot with a transfer and a claim. -/
def twoCalls : Snapshot := (Snapshot.empty 0).applyAll 1 callWrites

/-- The claim is finalized, and a block is noted for an extrinsic without record. -/
def claimWrites : List Write := [.status "0x02" .finalized, .block "0x03" "0xb1"]

end Samples

namespace Snapshot

theorem applyAll_sharing_twoCalls :
  Samples.twoCalls.IsNumbered 3
    ∧ (Samples.twoCalls.cells.get? "0x01").map StoredRecord.stamp = some 1
    ∧ (∃ b, (Samples.twoCalls.applyAll 3 Samples.claimWrites).cells.get? "0x01" = some b
      ∧ b.stamp = 1)
    ∧ (¬ ∃ b, (Samples.twoCalls.applyAll 3 Samples.claimWrites).cells.get? "0x02" = some b
      ∧ b.stamp = 2)
    ∧ (Samples.twoCalls.applyAll 3 Samples.claimWrites).stamp ≠ Samples.twoCalls.stamp
    ∧ ¬ ((Samples.twoCalls.applyAll 3 Samples.claimWrites).record? "0x03").isSome
  := by
  have hnumbered : Samples.twoCalls.IsNumbered 3 :=
    isNumbered_applyAll (isNumbered_empty 0) Samples.callWrites
  obtain ⟨-, hsome, hshares, hstamp, -⟩ := applyAll_sharing hnumbered Samples.claimWrites
  refine ⟨hnumbered, rfl, ?_, ?_, ?_, ?_⟩
  · apply (hshares "0x01" ⟨1, .ready "0x01" Samples.transfer Samples.alice true 7⟩ rfl).2
    decide
  · intro hsame
    apply (hshares "0x02" ⟨2, .ready "0x02" Samples.claim "" false 7⟩ rfl).1 hsame
      (.status "0x02" .finalized) List.mem_cons_self rfl
  · intro hsame
    apply hstamp.1 hsame [] (.status "0x02" .finalized) [.block "0x03" "0xb1"] rfl
    rfl
  · rw [hsome "0x03"]
    rintro (hthere | ⟨r, hadd⟩)
    · cases hthere
    · simp [Samples.claimWrites] at hadd

end Snapshot

end Extrinsics
