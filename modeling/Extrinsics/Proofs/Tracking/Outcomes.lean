import Extrinsics.Proofs.Tracking.Independence
import Extrinsics.Proofs.Tracking.Interruption
import Extrinsics.Proofs.Tracking.Pending

/-!
# Outcomes and records

The outcome of a task tells what has become of its record, except when a callback breaks off
after the call was ready. Then the call counts as abandoned without a record, but there is one.
-/

namespace Extrinsics

/-- An outcome agrees with the record at a hash, or with its absence. -/
def Outcome.Agrees (k : String) (record : Option Record) : Outcome → Prop
  | .finalized hash _ => hash = k ∧ ∀ r, record = some r → r.status = .finalized
  | .failed hash message =>
    hash = k ∧ ∀ r, record = some r → r.status = .error ∧ r.dispatchError = some message
  | .abandoned none => record = none
  | .abandoned (some hash) => hash = k ∧ ∃ r, record = some r ∧ r.status.isPending

/-- A callback has broken off, and the call was ready. -/
def History.BrokenReady (h : History) (c : Callbacks) : Prop :=
  h.done.any c.breaksOffAt ∧ ∃ e ∈ h.taken, e.2.isReady

namespace Tracker

/-- The outcome that the last update brings, and the write that ends the call. -/
theorem ending_of_verdict {t : Tracker} {u : Update} {o : Outcome} (h : t.verdict u = some o) :
  (∃ b, o = .finalized u.key b ∧ t.ending u = [.status u.key .finalized])
    ∨ ∃ message, o = .failed u.key message ∧ t.ending u = [.error u.key message]
  := by
  rw [verdict] at h
  rw [ending]
  cases he : u.dispatchError with
  | some e =>
    rw [he] at h
    cases h
    right
    use (t.registry.describe e).1
  | none =>
    rw [he] at h
    left
    obtain ⟨b, hb, rfl⟩ := Option.map_eq_some_iff.1 h
    use Hash.normalize b, rfl
    simp [Update.isFinalized, hb]

/-- A tracker that stops, and not because a callback breaks off, has the outcome that the last
update brings, and its final write is the one that ends the call. -/
theorem writes_of_outcome {t : Tracker} {now : BitVec 64} {u : Update} {o : Outcome}
    (h : (t.receive now u).2.2 = some o) (ho : o ≠ .abandoned none) :
  t.verdict u = some o ∧ ∃ ws, writes (t.receive now u).1 = ws ++ t.ending u
  := by
  rcases t.receive_cases now u with
    ⟨-, hr⟩ | ⟨-, -, hr⟩ | ⟨hbreak, -, ds, o', hr, -, -, hverdict⟩
  · rw [hr] at h
    cases h
    exact (ho rfl).elim
  · rw [hr] at h
    cases h
  · rw [hr] at h
    cases h
    use hverdict.resolve_right fun habandon => ho habandon.2
    rw [(t.writes_receive now u).2 hbreak, plain, ← List.append_assoc]
    exact ⟨_, rfl⟩

/-- While a tracker goes on, it knows the hash of the first ready update. -/
theorem tracked_of_goes {t : Tracker} {es : List Taken} (h : (t.follow es).2.2 = none) :
  (t.follow es).2.1.tracked = t.tracked.or ((es.find? fun e => e.2.isReady).map fun e => e.2.key)
  := by
  induction es generalizing t with
  | nil => simp [follow]
  | cons e es ih =>
    cases hr : (t.receive e.1 e.2).2.2 with
    | some o =>
      rw [follow_cons_some hr, hr] at h
      cases h
    | none =>
      obtain ⟨-, hafter⟩ := receive_eq_none hr
      rw [follow_cons_none hr, hafter] at h ⊢
      rw [ih h, tracked_after, enters]
      cases hready : e.2.isReady <;> cases ht : t.tracked <;> simp [hready]

end Tracker

namespace Task.Followed

variable {t : Task} {h : History} (ht : t.Followed h)

include ht

/-- A callback has broken off exactly when the tracker stopped and abandoned the call. -/
theorem any_breaksOffAt_iff :
  h.done.any t.tracker.callbacks.breaksOffAt
    ↔ (t.tracker.fresh.follow h.taken).2.2 = some (.abandoned none)
  := by
  have hcuts := t.tracker.fresh.follow_calm h.taken
  have hany : h.done.any t.tracker.callbacks.breaksOffAt
      = (t.tracker.fresh.calm.follow h.taken).1.any t.tracker.callbacks.breaksOffAt := by
    rw [ht.done, hcuts.done]
    apply Callbacks.any_cut
  rw [hany]
  constructor
  · apply hcuts.broken
  · intro hfollow
    apply Bool.of_not_eq_false
    intro hnone
    -- When no callback breaks off, the last update decides the outcome.
    have hcalm := congrArg Prod.snd (hcuts.unbroken hnone)
    rw [Tracker.outcome_follow t.tracker.fresh.callbacks.allReturn_calm ht.course] at hcalm
    obtain ⟨e, -, hverdict⟩ := Option.bind_eq_some_iff.1 (hcalm.trans hfollow)
    rcases Tracker.ending_of_verdict hverdict with ⟨b, ho, -⟩ | ⟨message, ho, -⟩ <;> cases ho

theorem outcome_of_breaksOff {o : Outcome} (hbreak : h.done.any t.tracker.callbacks.breaksOffAt)
    (ho : t.outcome = some o) :
  o = .abandoned none
  := by
  have hbroken := ht.any_breaksOffAt_iff.1 hbreak
  obtain ⟨⟨hfollow, -⟩ | ⟨hfollow, -⟩, -⟩ := ht.stopped o ho
  · apply Option.some.inj
    rw [← hfollow, hbroken]
  · cases hbroken.symm.trans hfollow

variable {k : String} (hown : ∀ u ∈ h.received, u.key = k)

include hown

theorem key_of_mem_taken {e : Taken} (he : e ∈ h.taken) :
  e.2.key = k
  := by
  apply hown
  apply ht.isPrefix_taken.subset
  apply List.mem_map_of_mem he

/-- There is a record exactly when the task took a ready update. -/
theorem isSome_record_iff :
  (Write.reviseAll k (writes h.done) none).isSome ↔ ∃ e ∈ h.taken, e.2.isReady
  := by
  rw [← ht.exists_adds_iff]
  apply Write.isSome_reviseAll
  intro w hw
  rw [ht.done] at hw
  obtain ⟨e, he, hkey, -⟩ := Tracker.key_of_mem_writes_follow hw
  rw [hkey, ht.key_of_mem_taken hown he]

/-- The record of a call whose stream has closed is under way. -/
theorem agrees_abandon (hfollow : (t.tracker.fresh.follow h.taken).2.2 = none) :
  t.tracker.abandon.Agrees k (Write.reviseAll k (writes h.done) none)
  := by
  have hrecord := ht.isSome_record_iff hown
  have htracked := Tracker.tracked_of_goes hfollow
  rw [← ht.tracker] at htracked
  rw [Tracker.abandon, htracked]
  cases hfind : h.taken.find? fun e => e.2.isReady with
  | none =>
    have hnone : ¬ ∃ e ∈ h.taken, e.2.isReady := by
      simpa using hfind
    rw [← hrecord, Option.not_isSome_iff_eq_none] at hnone
    apply hnone
  | some e =>
    have he := List.mem_of_find?_eq_some hfind
    have hready := List.find?_some hfind
    constructor
    · apply ht.key_of_mem_taken hown he
    · have horderly : t.tracker.fresh.Orderly k (writes h.done) := by
        rw [ht.done]
        apply (Tracker.orderly_follow fun e he => ht.key_of_mem_taken hown he).1
      apply horderly.isPending_iff.2
      constructor
      · apply ht.exists_adds_iff.2 ⟨e, he, hready⟩
      · intro w hw
        rw [ht.done] at hw
        obtain ⟨d, hd, -, hends⟩ := Tracker.key_of_mem_writes_follow hw
        apply Bool.eq_false_iff.2
        intro hw
        rw [Tracker.not_isLast_of_follow hfollow d hd] at hends
        exact Bool.false_ne_true (hends hw)

/-- The record of a call that came to its end has the status of that end. -/
theorem agrees_of_ne {o : Outcome} (hfollow : (t.tracker.fresh.follow h.taken).2.2 = some o)
    (ho : o ≠ .abandoned none) :
  o.Agrees k (Write.reviseAll k (writes h.done) none)
  := by
  have hne : h.taken ≠ [] := by
    intro hnil
    rw [hnil] at hfollow
    cases hfollow
  have hkey := ht.key_of_mem_taken hown (List.getLast_mem hne)
  have hdone := ht.done
  rw [← List.dropLast_concat_getLast hne, Tracker.follow_concat ht.early] at hfollow hdone
  obtain ⟨hverdict, ws, hws⟩ := Tracker.writes_of_outcome hfollow ho
  rw [hdone, writes_append, hws, ← List.append_assoc, Write.reviseAll_append]
  rcases Tracker.ending_of_verdict hverdict with ⟨b, rfl, hending⟩ | ⟨message, rfl, hending⟩
  · rw [hending, hkey, Write.reviseAll_singleton (show (Write.status k .finalized).key = k from rfl)]
    use rfl
    intro r hr
    obtain ⟨r', -, rfl⟩ := Option.map_eq_some_iff.1 hr
    rfl
  · rw [hending, hkey, Write.reviseAll_singleton (show (Write.error k message).key = k from rfl)]
    use rfl
    intro r hr
    obtain ⟨r', -, rfl⟩ := Option.map_eq_some_iff.1 hr
    exact ⟨rfl, rfl⟩

/-- What the outcome tells of the record is right, unless a callback has broken off after the
call was ready. -/
theorem agrees_iff {o : Outcome} (ho : t.outcome = some o) :
  o.Agrees k (Write.reviseAll k (writes h.done) none)
    ↔ ¬ h.BrokenReady t.tracker.callbacks
  := by
  rw [History.BrokenReady, ht.any_breaksOffAt_iff, ← ht.isSome_record_iff hown]
  obtain ⟨⟨hfollow, -⟩ | ⟨hfollow, -, rfl⟩, -⟩ := ht.stopped o ho
  · rw [hfollow]
    by_cases habandon : o = .abandoned none
    · subst habandon
      simp [Outcome.Agrees]
    · have hagrees := ht.agrees_of_ne hown hfollow habandon
      simp [hagrees, habandon]
  · have hagrees := ht.agrees_abandon hown hfollow
    simp [hfollow, hagrees]

end Task.Followed

namespace Executor

variable {client : Client} {as : List Action} {i : Nat} {k : String}

/-- When no other call has the hash of a call, the outcome of the call agrees with its record,
unless a callback has broken off after the call was ready. Then the call counts as abandoned
without a record, but there is one. There is a record exactly when the task took a ready
update. -/
theorem outcome_record (h : Sole client as i k) {t : Task} {o : Outcome}
    (ht : (run client as).tasks[i]? = some t) (ho : t.outcome = some o) :
  let record := (run client as).store.snapshot.record? k
  (o.Agrees k record ↔ ¬ (history client as i).BrokenReady t.tracker.callbacks)
    ∧ ((history client as i).BrokenReady t.tracker.callbacks →
      o = .abandoned none ∧ record.isSome)
    ∧ (record.isSome ↔ ∃ e ∈ (history client as i).taken, e.2.isReady)
  := by
  have hfollowed := followed_run client as ht
  have hrecord := hfollowed.isSome_record_iff h.own
  dsimp only
  rw [h.record?_run]
  use hfollowed.agrees_iff h.own ho
  constructor
  · rintro ⟨hbreak, hready⟩
    constructor
    · apply hfollowed.outcome_of_breaksOff hbreak ho
    · apply hrecord.2 hready
  · apply hrecord

end Executor

namespace Samples

/-- A transfer becomes ready, and the callback that is told of it breaks off. -/
def brokenRun : List Executor.Action :=
  [.prepare preparedTransfer, .submit 0 .unsigned ⟨some .breaksOff, none, none⟩,
    .send 0 (.ofStatus "0xABC" .ready), .advance 1 0]

/-- The stream of a transfer closes after the transfer was ready. -/
def lostRun : List Executor.Action :=
  [.prepare preparedTransfer, .submit 0 .unsigned ⟨some .returns, some .breaksOff, none⟩,
    .send 0 (.ofStatus "0xABC" .ready), .advance 1 0, .close 0, .advance 2 0]

end Samples

namespace Executor

/-- A call whose callback has broken off counts as abandoned without a record, but there is
one. -/
theorem not_agrees_brokenRun :
  ¬ ∀ client as i k (t : Task) (o : Outcome), Sole client as i k →
    (run client as).tasks[i]? = some t → t.outcome = some o →
    o.Agrees k ((run client as).store.snapshot.record? k)
  := by
  intro hagrees
  have hsole : Sole Samples.client Samples.brokenRun 0 "0xabc" :=
    Sole.of_single rfl (by decide)
  have hnone : (run Samples.client Samples.brokenRun).store.snapshot.record? "0xabc" = none :=
    hagrees Samples.client Samples.brokenRun 0 _ _ (.abandoned none) hsole rfl rfl
  have hsome : ((run Samples.client Samples.brokenRun).store.snapshot.record? "0xabc").isSome :=
    rfl
  rw [hnone] at hsome
  cases hsome

theorem outcome_record_lostRun :
  ∃ t, (run Samples.client Samples.lostRun).tasks[0]? = some t
    ∧ t.outcome = some (.abandoned (some "0xabc"))
    ∧ ∃ r, (run Samples.client Samples.lostRun).store.snapshot.record? "0xabc" = some r
      ∧ r.status.isPending
  := by
  have hsole : Sole Samples.client Samples.lostRun 0 "0xabc" :=
    Sole.of_single rfl (by decide)
  obtain ⟨t, ht, ho, hcalm⟩ : ∃ t, (run Samples.client Samples.lostRun).tasks[0]? = some t
      ∧ t.outcome = some (.abandoned (some "0xabc"))
      ∧ ¬ (history Samples.client Samples.lostRun 0).BrokenReady t.tracker.callbacks := by
    refine ⟨_, rfl, rfl, ?_⟩
    rintro ⟨⟨⟩, -⟩
  obtain ⟨hagrees, -⟩ := outcome_record hsole ht ho
  obtain ⟨-, hpending⟩ := hagrees.2 hcalm
  exact ⟨t, ht, ho, hpending⟩

end Executor

end Extrinsics
