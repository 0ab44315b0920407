import Extrinsics.Proofs.Tracking.Keys

/-!
# Calls that are alike

What a task writes, what it tells its callbacks and its outcome depend on nothing but its
submission, its updates, the time at which its record is created, and how far it has come.
-/

namespace Extrinsics

/-- Two tasks have come equally far with the same call: they have the same submission, the
same updates and the same time of creation, and have both stopped, or have both taken as many
updates. -/
structure Alike (t : Task) (h : History) (t' : Task) (h' : History) : Prop where
  submission : t.tracker.fresh = t'.tracker.fresh
  received : h.received = h'.received
  creation : creation h.taken = creation h'.taken
  stopped : t.isFinished = t'.isFinished
  taken : t.isFinished = false → h.taken.length = h'.taken.length

namespace Alike

variable {t t' : Task} {h h' : History}

theorem symm (ha : Alike t h t' h') :
  Alike t' h' t h
  where
  submission := ha.submission.symm
  received := ha.received.symm
  creation := ha.creation.symm
  stopped := ha.stopped.symm
  taken := fun hlive => (ha.taken (ha.stopped.trans hlive)).symm

variable (ha : Alike t h t' h') (ht : t.Followed h) (ht' : t'.Followed h')

include ha ht ht'

/-- Tasks that are alike have taken the same updates. -/
theorem updates_eq :
  h.taken.map Prod.snd = h'.taken.map Prod.snd
  := by
  cases hfin : t.isFinished with
  | true =>
    rw [ht.taken_of_isFinished hfin, ht'.taken_of_isFinished (ha.stopped ▸ hfin), ha.submission,
      ha.received]
  | false =>
    apply List.IsPrefix.eq_of_length
    · apply List.prefix_of_prefix_length_le ht.isPrefix_taken
      · rw [ha.received]
        apply ht'.isPrefix_taken
      · simp [ha.taken hfin]
    · simp [ha.taken hfin]

theorem follow_eq :
  t.tracker.fresh.follow h.taken = t'.tracker.fresh.follow h'.taken
  := by
  rw [← ha.submission]
  apply Tracker.follow_congr (ha.updates_eq ht ht') (.inr ha.creation)

/-- Tasks that are alike have done the same. -/
theorem done_eq :
  h.done = h'.done
  := by
  rw [ht.done, ht'.done, ha.follow_eq ht ht']

/-- Tasks that are alike have the same outcome. -/
theorem outcome_eq :
  t.outcome = t'.outcome
  := by
  have hfollow := ha.follow_eq ht ht'
  have htracker : t.tracker = t'.tracker := by
    rw [ht.tracker, ht'.tracker, hfollow]
  have hstopped := ha.stopped
  rw [Task.isFinished, Task.isFinished] at hstopped
  cases hout : t.outcome with
  | none =>
    rw [hout] at hstopped
    symm
    apply Option.not_isSome_iff_eq_none.1
    rw [← hstopped]
    apply Bool.false_ne_true
  | some o =>
    rw [hout] at hstopped
    obtain ⟨o', hout'⟩ := Option.isSome_iff_exists.1 hstopped.symm
    obtain ⟨hend, -⟩ := ht.stopped o hout
    obtain ⟨hend', -⟩ := ht'.stopped o' hout'
    rw [← hfollow] at hend'
    rw [hout']
    congr 1
    rcases hend with ⟨hsome, -⟩ | ⟨hnone, -, rfl⟩
    · rcases hend' with ⟨hsome', -⟩ | ⟨hnone', -⟩
      · rw [hsome] at hsome'
        apply Option.some.inj hsome'
      · rw [hsome] at hnone'
        cases hnone'
    · rcases hend' with ⟨hsome', -⟩ | ⟨-, -, rfl⟩
      · rw [hnone] at hsome'
        cases hsome'
      · rw [htracker]

end Alike

end Extrinsics
