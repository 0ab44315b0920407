import Mathlib.Data.List.Induction
import Extrinsics.Proofs.Tracking.Determined
import Extrinsics.Proofs.Tracking.Origins

/-!
# The tasks of a run

In a run, every task follows its call: what it did is what its tracker does with the updates
it took. While it is live, the updates it received are those it took and those in its queue.
It stops at the update at which its tracker stops, or when its stream has closed and it has
taken all it received. Then its subscription is cancelled, once.

The store is what the writes of the tasks make of nothing.
-/

namespace Extrinsics

namespace Task

theorem tracker_take (t : Task) (now : BitVec 64) (u : Update) (rest : List Update) :
  (t.take now u rest).tracker = (t.tracker.receive now u).2.1
  := by
  rw [Task.take]
  cases (t.tracker.receive now u).2.2 <;> rfl

/-- A move leaves a task at its feed. -/
theorem feed_moves {t t' : Task} {h : History} (hmove : t.Moves h t') :
  t'.feed = t.feed
  := by
  cases hmove with
  | rest c => cases c <;> rfl
  | receive u hacc => rfl
  | abandon c hrun hqueue hacc => cases c <;> rfl
  | take now u rest c hrun hqueue =>
    have htake : (t.take now u rest).feed = t.feed := by
      rw [take]
      cases (t.tracker.receive now u).2.2 <;> rfl
    cases c <;> apply htake

/-- What a task makes its records from stays the same. -/
theorem fresh_moves {t t' : Task} {h : History} (hmove : t.Moves h t') :
  t'.tracker.fresh = t.tracker.fresh
  := by
  cases hmove with
  | rest c => cases c <;> rfl
  | receive u hacc => rfl
  | abandon c hrun hqueue hacc => cases c <;> rfl
  | take now u rest c hrun hqueue =>
    have htake : (t.take now u rest).tracker.fresh = t.tracker.fresh := by
      rw [tracker_take, Tracker.fresh_receive]
    cases c <;> apply htake

end Task

/-- A task has followed its call. -/
structure Task.Followed (t : Task) (h : History) : Prop where
  done : h.done = (t.tracker.fresh.follow h.taken).1
  tracker : t.tracker = (t.tracker.fresh.follow h.taken).2.1
  /-- The tracker did not stop before the final update. -/
  early : (t.tracker.fresh.follow h.taken.dropLast).2.2 = none
  live : t.outcome = none →
    (t.tracker.fresh.follow h.taken).2.2 = none
      ∧ h.received = h.taken.map Prod.snd ++ t.stream.queue
      ∧ t.stream.isActive ∧ t.stream.unsubscribed = 0
  stopped : ∀ o, t.outcome = some o →
    ((t.tracker.fresh.follow h.taken).2.2 = some o ∧ h.taken.map Prod.snd <+: h.received
        ∨ (t.tracker.fresh.follow h.taken).2.2 = none ∧ h.received = h.taken.map Prod.snd
          ∧ o = t.tracker.abandon)
      ∧ t.stream.isActive = false ∧ t.stream.unsubscribed = 1

namespace Task.Followed

variable {t : Task} {h : History}

theorem closeIf (ht : t.Followed h) (c : Bool) :
  (t.closeIf c).Followed h
  := by
  cases c with
  | false => apply ht
  | true => exact ⟨ht.done, ht.tracker, ht.early, ht.live, ht.stopped⟩

/-- A cancelled stream is no longer active, and its handle has run once. -/
theorem drop_of_live {s : Subscription} (hs : s.isActive ∧ s.unsubscribed = 0) :
  s.drop.isActive = false ∧ s.drop.unsubscribed = 1
  := by
  simp [Subscription.drop, Subscription.unsubscribe, hs]

theorem opening (s : Submission) :
  s.opening.Followed ⟨s.prepared.script, [], []⟩
  where
  done := rfl
  tracker := rfl
  early := rfl
  live := fun _ => ⟨rfl, rfl, rfl, rfl⟩
  stopped := by
    rintro o ⟨⟩

/-- Following goes on through every move of the task. -/
theorem moves (ht : t.Followed h) {h' : History} {t' : Task} (hmove : t.Moves h' t') :
  t'.Followed (h.append h')
  := by
  cases hmove with
  | rest c =>
    rw [History.append_empty]
    apply ht.closeIf
  | receive u hacc =>
    obtain ⟨-, hactive⟩ := Bool.and_eq_true_iff.1 hacc
    have happend : h.append ⟨[u], [], []⟩ = ⟨h.received ++ [u], h.taken, h.done⟩ := by
      simp [History.append]
    rw [happend]
    refine ⟨ht.done, ht.tracker, ht.early, ?_, ?_⟩
    · intro hrun
      obtain ⟨hfollow, hreceived, hstream⟩ := ht.live hrun
      use hfollow
      rw [Task.deliver, Subscription.send, if_pos hacc, hreceived, List.append_assoc]
      use rfl
    · intro o ho
      obtain ⟨-, hinactive, -⟩ := ht.stopped o ho
      rw [hactive] at hinactive
      cases hinactive
  | abandon c hrun hqueue hacc =>
    obtain ⟨hfollow, hreceived, hstream⟩ := ht.live hrun
    rw [History.append_empty]
    apply closeIf
    refine ⟨ht.done, ht.tracker, ht.early, ?_, ?_⟩
    · rintro ⟨⟩
    · rintro o ⟨⟩
      rw [hqueue, List.append_nil] at hreceived
      exact ⟨.inr ⟨hfollow, hreceived, rfl⟩, drop_of_live hstream⟩
  | take now u rest c hrun hqueue =>
    obtain ⟨hfollow, hreceived, hstream⟩ := ht.live hrun
    have hconcat := Tracker.follow_concat hfollow (now, u)
    rw [← ht.tracker] at hconcat
    have hfresh : (t.take now u rest).tracker.fresh = t.tracker.fresh := by
      rw [tracker_take, Tracker.fresh_receive]
    have happend : h.append ⟨[], [(now, u)], (t.tracker.receive now u).1⟩
        = ⟨h.received, h.taken ++ [(now, u)], h.done ++ (t.tracker.receive now u).1⟩ := by
      simp [History.append]
    rw [happend]
    apply closeIf
    refine ⟨?_, ?_, ?_, ?_, ?_⟩
    · rw [hfresh, hconcat, ht.done]
    · rw [hfresh, hconcat, tracker_take]
    · rw [hfresh, List.dropLast_concat, hfollow]
    · intro hrun'
      rw [hfresh, hconcat]
      rw [Task.take] at hrun' ⊢
      cases hr : (t.tracker.receive now u).2.2 with
      | none =>
        use rfl
        rw [hreceived, hqueue]
        simpa [hr] using hstream
      | some o =>
        rw [hr] at hrun'
        cases hrun'
    · intro o ho
      rw [hfresh, hconcat]
      rw [Task.take] at ho ⊢
      cases hr : (t.tracker.receive now u).2.2 with
      | none =>
        rw [hr] at ho
        cases hrun.symm.trans ho
      | some o' =>
        rw [hr] at ho
        cases ho
        rw [hreceived, hqueue]
        constructor
        · left
          use rfl, rest
          simp
        · apply drop_of_live (s := { t.stream with queue := rest }) hstream

theorem isPrefix_taken (ht : t.Followed h) :
  h.taken.map Prod.snd <+: h.received
  := by
  cases hout : t.outcome with
  | none =>
    obtain ⟨-, hreceived, -⟩ := ht.live hout
    rw [hreceived]
    apply List.prefix_append
  | some o =>
    obtain ⟨⟨-, hinitial⟩ | ⟨-, hreceived, -⟩, -⟩ := ht.stopped o hout
    · apply hinitial
    · exact ⟨[], by rw [List.append_nil, hreceived]⟩

/-- A stopped task has taken what its tracker takes of the updates it received. -/
theorem taken_of_isFinished (ht : t.Followed h) (hfin : t.isFinished) :
  h.taken.map Prod.snd = t.tracker.fresh.consumed h.received
  := by
  obtain ⟨o, ho⟩ := Option.isSome_iff_exists.1 hfin
  obtain ⟨⟨hfollow, us, hus⟩ | ⟨hfollow, hreceived, -⟩, -⟩ := ht.stopped o ho
  · rw [← hus, Tracker.consumed_append ht.early hfollow]
  · rw [hreceived, Tracker.consumed_of_follow hfollow]

end Task.Followed

namespace Executor

/-- A task stays, and so does what it makes its record from. -/
theorem performAll_eq_some {x : Executor} {i : Nat} {t : Task} (h : x.tasks[i]? = some t)
    (as : List Action) :
  ∃ t', (x.performAll as).tasks[i]? = some t' ∧ t'.tracker.fresh = t.tracker.fresh
    ∧ t'.feed = t.feed
  := by
  induction as generalizing x t with
  | nil => use t, h
  | cons a as ih =>
    obtain ⟨s, hs, hmove⟩ := moves_perform h a
    obtain ⟨t', ht', hfresh, hfeed⟩ := ih hs
    use t', ht'
    rw [hfresh, hfeed, Task.fresh_moves hmove, Task.feed_moves hmove]
    exact ⟨rfl, rfl⟩

theorem exists_task_of_isPrefix {client : Client} {as bs : List Action} (hbs : bs <+: as)
    {i : Nat} {t : Task} (ht : (run client bs).tasks[i]? = some t) :
  ∃ t', (run client as).tasks[i]? = some t' ∧ t'.tracker.fresh = t.tracker.fresh
    ∧ t'.feed = t.feed
  := by
  obtain ⟨cs, rfl⟩ := hbs
  rw [run, performAll_append]
  apply performAll_eq_some ht

variable {client : Client}

/-- A task is opened once. -/
theorem Grants.eq_of_isPrefix {as bs : List Action} {a b : Action} {s s' : Submission} {i : Nat}
    (h : (run client as).Grants a s i) (h' : (run client bs).Grants b s' i)
    (hle : as ++ [a] <+: bs ++ [b]) :
  s = s'
  := by
  rcases List.prefix_concat_iff.1 hle with heq | hshort
  · obtain ⟨rfl, ha⟩ := List.append_inj' heq rfl
    cases ha
    apply h.unique h'
  · -- The task is there before the second submission, which opens the next one.
    have hopen := h.opens.1
    rw [← run_concat] at hopen
    obtain ⟨t, ht, -⟩ := exists_task_of_isPrefix hshort hopen
    obtain ⟨hi, -⟩ := List.getElem?_eq_some_iff.1 ht
    exact (hi.ne h'.eq_length).elim

namespace Submits

variable {as : List Action} {i : Nat} {s : Submission}

/-- Each submission has its task. -/
theorem exists_task (h : Submits client as i s) :
  ∃ t, (run client as).tasks[i]? = some t ∧ t.IsFor s
  := by
  obtain ⟨bs, a, hbs, hgrants⟩ := h.granted
  have hopen := hgrants.opens.1
  rw [← run_concat] at hopen
  obtain ⟨t, ht, hfresh, hfeed⟩ := exists_task_of_isPrefix hbs hopen
  use t, ht
  apply (Task.IsFor.opening s).of_fresh hfresh hfeed

/-- A task is that of one submission. -/
theorem unique {s' : Submission} (h : Submits client as i s) (h' : Submits client as i s') :
  s = s'
  := by
  obtain ⟨bs, a, hbs, hgrants⟩ := h.granted
  obtain ⟨bs', a', hbs', hgrants'⟩ := h'.granted
  rcases List.prefix_or_prefix_of_prefix hbs hbs' with hle | hle
  · apply hgrants.eq_of_isPrefix hgrants' hle
  · symm
    apply hgrants'.eq_of_isPrefix hgrants hle

end Submits

variable (client) (as : List Action)

/-- A task that is not there has no history. -/
theorem history_eq_empty {i : Nat} (h : (run client as).tasks[i]? = none) :
  history client as i = .empty
  := by
  induction as using List.reverseRecOn with
  | nil => rfl
  | append_singleton as a ih =>
    rw [run_concat] at h
    cases hi : (run client as).tasks[i]? with
    | some t =>
      obtain ⟨t', ht', -⟩ := moves_perform hi a
      rw [h] at ht'
      cases ht'
    | none =>
      rcases opens_perform hi a with ⟨-, hpart⟩ | ⟨s, -, hopen, -⟩
      · rw [history_concat, ih hi, hpart, History.append_empty]
      · rw [h] at hopen
        cases hopen

/-- What holds of a task when it is opened, and goes on to hold when it moves, holds of every
task of a run. -/
theorem task_induction {P : Task → History → Prop}
    (hmove : ∀ t h t' h', P t h → t.Moves h' t' → P t' (h.append h'))
    {i : Nat} (hopen : ∀ s, Submits client as i s → P s.opening ⟨s.prepared.script, [], []⟩)
    {t : Task} (h : (run client as).tasks[i]? = some t) :
  P t (history client as i)
  := by
  induction as using List.reverseRecOn generalizing t with
  | nil => cases h
  | append_singleton as a ih =>
    rw [run_concat] at h
    rw [history_concat]
    cases hi : (run client as).tasks[i]? with
    | some s =>
      obtain ⟨t', ht', hmoves⟩ := moves_perform hi a
      rw [h] at ht'
      cases ht'
      have hinit : P s (history client as i) :=
        ih (fun c hc => hopen c (hc.mono (List.prefix_append as [a]))) hi
      apply hmove _ _ _ _ hinit hmoves
    | none =>
      rw [history_eq_empty client as hi, History.empty_append]
      rcases opens_perform hi a with ⟨hnone, -⟩ | ⟨s, hgrants, hnew, hpart⟩
      · rw [h] at hnone
        cases hnone
      · rw [h] at hnew
        cases hnew
        rw [hpart]
        apply hopen s hgrants.submits

/-- Every task of a run has followed its call. -/
theorem followed_run {i : Nat} {t : Task} (h : (run client as).tasks[i]? = some t) :
  t.Followed (history client as i)
  := by
  apply task_induction client as _ _ h
  · intro t h t' h' ht hmove
    apply ht.moves hmove
  · intro s _
    apply Task.Followed.opening

/-- Every task of a run is that of a submission. -/
theorem origin_run {i : Nat} {t : Task} (h : (run client as).tasks[i]? = some t) :
  ∃ s, Submits client as i s ∧ t.IsFor s
  := by
  apply task_induction client as
    (P := fun t _ => ∃ s, Submits client as i s ∧ t.IsFor s) _ _ h
  · rintro t h t' h' ⟨s, hs, ht⟩ hmove
    use s, hs
    apply ht.of_fresh (Task.fresh_moves hmove) (Task.feed_moves hmove)
  · intro s hs
    use s, hs
    apply Task.IsFor.opening

/-! ### The store of a run -/

/-- The store is what the writes of the run make of nothing. -/
theorem store_run :
  (run client as).store = Store.replay (writes (run client as).deeds)
  := by
  induction as using List.reverseRecOn with
  | nil => rfl
  | append_singleton as a ih =>
    obtain ⟨i, ds, hdeeds, hstore, -⟩ := (run client as).deeds_perform a
    rw [run_concat, hdeeds, hstore, ih, writes_append, Store.replay_append]

/-- Every write of a run is done by a task. -/
theorem mem_writes_run {w : Write} (h : w ∈ writes (run client as).deeds) :
  ∃ i, w ∈ writes (history client as i).done
  := by
  induction as using List.reverseRecOn with
  | nil => cases h
  | append_singleton as a ih =>
    obtain ⟨i, ds, hdeeds, -, hpart⟩ := (run client as).deeds_perform a
    rw [run_concat, hdeeds, writes_append, List.mem_append] at h
    rcases h with h | h
    · obtain ⟨j, hj⟩ := ih h
      use j
      rw [history_concat]
      simp [History.append, hj]
    · use i
      rw [history_concat]
      simp [History.append, hpart, h]

end Executor

end Extrinsics
