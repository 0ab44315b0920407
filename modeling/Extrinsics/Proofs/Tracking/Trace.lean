import Extrinsics.Proofs.Tracking.Tasks

/-!
# The trace of a call

When no callback breaks off, all that the tracking of a call does is determined by the
updates of the call: the record is made at the first ready update, every inclusion is noted,
and the first update that carries a dispatch error or tells that the block is final is the
last one that is taken.
-/

namespace Extrinsics

namespace Update

/-- The updates of a call, up to the first that is the last one of the call. -/
def throughLast (us : List Update) : List Update :=
  us.takeWhile (fun u => !u.isLast) ++ (us.find? isLast).toList

theorem throughLast_cons (u : Update) (us : List Update) :
  throughLast (u :: us) = if u.isLast then [u] else u :: throughLast us
  := by
  rw [throughLast, List.takeWhile_cons, List.find?_cons]
  cases u.isLast <;> rfl

end Update

/-- When no callback breaks off, a tracker takes the updates up to the last one of the call. -/
theorem Tracker.consumed_eq_throughLast {t : Tracker} (hc : t.callbacks.AllReturn)
    (us : List Update) :
  t.consumed us = Update.throughLast us
  := by
  induction us generalizing t with
  | nil => rfl
  | cons u us ih =>
    rw [t.consumed_cons 0, outcome_receive hc, isSome_verdict, Update.throughLast_cons,
      t.tracker_receive 0 u (not_breaksAt hc u), ih (by rwa [callbacks_after])]
    cases u.isLast <;> rfl

/-- The tracking of a call has done what its updates call for. -/
structure Task.Traced (t : Task) (h : History) : Prop where
  /-- In the order of the updates: the making of the record at the first ready update, before
  the other writes of that update, and for each update the note of its block and then the end
  of the call. -/
  writes : writes h.done
    = (h.taken.takeWhile fun e => !e.2.isReady).flatMap (fun e => t.tracker.plain e.2)
      ++ (h.taken.find? fun e => e.2.isReady).toList.map t.tracker.addition
      ++ (h.taken.dropWhile fun e => !e.2.isReady).flatMap fun e => t.tracker.plain e.2
  /-- A stopped task has taken the updates up to the last one of the call. -/
  stopped : t.isFinished → h.taken.map Prod.snd = Update.throughLast h.received
  /-- A live task has taken no last update, and has the rest of the updates before it. -/
  live : ¬ t.isFinished → (∀ e ∈ h.taken, e.2.isLast = false)
    ∧ h.received = h.taken.map Prod.snd ++ t.stream.queue
  /-- The callbacks are told of the first ready update and of the last update. -/
  tellings : tellings h.done
    = ((h.taken.find? fun e => e.2.isReady).toList.flatMap fun e => t.tracker.welcome e.2)
      ++ (h.taken.find? fun e => e.2.isLast).toList.flatMap fun e => t.tracker.farewell e.2
  /-- The outcome is that of the last update. Without one the call is abandoned, with the hash
  of the first ready update. -/
  outcome : ∀ o, t.outcome = some o →
    o = ((h.received.find? Update.isLast).bind t.tracker.verdict).getD
      (.abandoned ((h.received.find? Update.isReady).map Update.key))
  /-- The subscription is cancelled when the task stops, and its handle runs once. -/
  unsubscribed : t.stream.unsubscribed = if t.isFinished then 1 else 0

namespace Task.Followed

variable {t : Task} {h : History}

/-- A task that stops without a last update has taken all its updates. -/
theorem not_isLast_of_received (hfollow : (t.tracker.fresh.follow h.taken).2.2 = none)
    (hreceived : h.received = h.taken.map Prod.snd) :
  ∀ u ∈ h.received, u.isLast = false
  := by
  intro u hu
  rw [hreceived] at hu
  obtain ⟨e, he, rfl⟩ := List.mem_map.1 hu
  apply Tracker.not_isLast_of_follow hfollow e he

variable (ht : t.Followed h)

include ht

theorem course :
  Tracker.Course h.taken
  := Tracker.not_isLast_of_follow ht.early

/-- The handle of the subscription runs once, when the task stops. -/
theorem unsubscribed_eq :
  t.stream.unsubscribed = if t.isFinished then 1 else 0
  := by
  rw [isFinished]
  cases hout : t.outcome with
  | none =>
    obtain ⟨-, -, -, hcount⟩ := ht.live hout
    apply hcount
  | some o =>
    obtain ⟨-, -, hcount⟩ := ht.stopped o hout
    apply hcount

variable (hc : t.tracker.callbacks.AllReturn)

include hc

theorem outcome_eq {o : Outcome} (ho : t.outcome = some o) :
  o = ((h.received.find? Update.isLast).bind t.tracker.verdict).getD
    (.abandoned ((h.received.find? Update.isReady).map Update.key))
  := by
  have hcf : t.tracker.fresh.callbacks.AllReturn := hc
  obtain ⟨⟨hfollow, vs, hvs⟩ | ⟨hfollow, hreceived, rfl⟩, -⟩ := ht.stopped o ho
  · rw [Tracker.outcome_follow hcf ht.course] at hfollow
    obtain ⟨e, he, hverdict⟩ := Option.bind_eq_some_iff.1 hfollow
    have hfind : h.received.find? Update.isLast = some e.2 := by
      rw [← hvs, List.find?_append, List.find?_map, Function.comp_def, he]
      rfl
    have hverdict' : t.tracker.verdict e.2 = some o := hverdict
    rw [hfind, Option.bind_some, hverdict']
    rfl
  · have hfind : h.received.find? Update.isLast = none := by
      apply List.find?_eq_none.2
      intro u hu
      rw [not_isLast_of_received hfollow hreceived u hu]
      apply Bool.false_ne_true
    have htracked := Tracker.tracked_follow hcf ht.course
    rw [← ht.tracker] at htracked
    rw [hfind, Tracker.abandon, htracked, hreceived, List.find?_map, Option.map_map]
    rfl

theorem traced :
  t.Traced h
  where
  writes := by
    rw [ht.done]
    apply Tracker.writes_follow (t := t.tracker.fresh) hc rfl ht.course
  stopped := by
    intro hfin
    rw [ht.taken_of_isFinished hfin]
    apply Tracker.consumed_eq_throughLast (t := t.tracker.fresh) hc
  live := by
    intro hfin
    obtain ⟨hfollow, hreceived, -⟩ := ht.live (Option.not_isSome_iff_eq_none.1 hfin)
    use Tracker.not_isLast_of_follow hfollow
  tellings := by
    rw [ht.done]
    apply Tracker.tellings_follow (t := t.tracker.fresh) hc ht.course
  outcome := fun _ => ht.outcome_eq hc
  unsubscribed := ht.unsubscribed_eq

end Task.Followed

namespace Executor

/-- In every run, the tracking of each call does what its updates call for. It goes on as long
as there is an update to take, and when its stream is closed. -/
theorem traced_run {client : Client} {as : List Action} {i : Nat} {t : Task}
    (h : (run client as).tasks[i]? = some t) (hc : t.tracker.callbacks.AllReturn) :
  t.Traced (history client as i)
    ∧ ∀ now, (run client as).step now i = none
      ↔ t.isFinished ∨ t.stream.queue = [] ∧ t.stream.accepts
  := by
  constructor
  · apply (followed_run client as h).traced hc
  · intro now
    rw [step_eq_none_iff h, t.step_eq_none_iff]

theorem traced_transferRun :
  ∃ t, (run Samples.client Samples.transferRun).tasks[0]? = some t
    ∧ t.tracker.callbacks.AllReturn ∧ t.isFinished
    ∧ t.Traced (history Samples.client Samples.transferRun 0)
  := by
  refine ⟨_, rfl, by decide, rfl, ?_⟩
  apply (traced_run rfl (by decide)).1

end Executor

end Extrinsics
