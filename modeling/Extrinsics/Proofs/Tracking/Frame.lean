import Extrinsics.Proofs.Lists
import Extrinsics.Proofs.Tracking.Follow
import Extrinsics.Tracking.Executor

/-!
# What the executor leaves alone

Every operation of the executor changes one task, or it closes the stream of one more. The
store and the deeds change only by deeds that are done. A step of a task is a step of that
task by itself, `Task.step`, which does not look at the rest of the executor.
-/

namespace Extrinsics

namespace Task

/-- The task after the sending side of its stream has gone. -/
def close (t : Task) : Task := { t with stream := t.stream.close }

/-- The task after its stream was closed, or as it was. -/
def closeIf (c : Bool) (t : Task) : Task := if c then t.close else t

/-- The task after an update was sent to it. -/
def deliver (u : Update) (t : Task) : Task := { t with stream := t.stream.send u }

/-- The stopped task. Its stream is dropped. -/
def stop (o : Outcome) (t : Task) : Task :=
  { t with outcome := some o, stream := t.stream.drop }

/-- The task after it has taken an update and gone on, or stopped. -/
def take (now : BitVec 64) (u : Update) (rest : List Update) (t : Task) : Task :=
  let taken : Task := { t with
    stream := { t.stream with queue := rest }
    tracker := (t.tracker.receive now u).2.1 }
  match (t.tracker.receive now u).2.2 with
  | none => taken
  | some o => taken.stop o

@[simp] theorem closeIf_false :
  closeIf false = id
  := rfl

@[simp] theorem closeIf_true :
  closeIf true = close
  := rfl

@[simp] theorem outcome_closeIf (c : Bool) (t : Task) :
  (t.closeIf c).outcome = t.outcome
  := by
  cases c <;> rfl

@[simp] theorem tracker_closeIf (c : Bool) (t : Task) :
  (t.closeIf c).tracker = t.tracker
  := by
  cases c <;> rfl

@[simp] theorem queue_closeIf (c : Bool) (t : Task) :
  (t.closeIf c).stream.queue = t.stream.queue
  := by
  cases c <;> rfl

theorem hasSender_closeIf {c : Bool} {t : Task} (h : t.stream.hasSender = false) :
  (t.closeIf c).stream.hasSender = false
  := by
  cases c with
  | false => apply h
  | true => rfl

/-- One step of a task by itself: its deeds, and the task after it. -/
def step (now : BitVec 64) (t : Task) : Option (List Deed × Task) :=
  if t.isFinished then none
  else
    match t.stream.next with
    | (.pending, _) => none
    | (.closed, _) => some ([], t.stop t.tracker.abandon)
    | (.update u, stream) => some ((t.tracker.receive now u).1, t.take now u stream.queue)

/-- The task of a new submission, with the updates that are sent at once in its queue. -/
def opening (client : Client) (feed : Nat) (p : PreparedCall) (mode : Executor.Mode)
    (callbacks : Callbacks) : Task where
  feed := feed
  stream := { Subscription.start with queue := p.script }
  tracker := ⟨client.registry, p.call, mode.sender, mode.isSigned, callbacks, none⟩
  outcome := none

/-- The update that a task takes in its next step. -/
def upcoming (t : Task) : Option Update :=
  if t.isFinished then none else t.stream.queue.head?

theorem take_of_none {t : Task} {now : BitVec 64} {u : Update}
    (h : (t.tracker.receive now u).2.2 = none) (rest : List Update) :
  t.take now u rest = { t with
    stream := { t.stream with queue := rest }
    tracker := (t.tracker.receive now u).2.1 }
  := by
  rw [take, h]

theorem take_of_some {t : Task} {now : BitVec 64} {u : Update} {o : Outcome}
    (h : (t.tracker.receive now u).2.2 = some o) (rest : List Update) :
  t.take now u rest = stop o { t with
    stream := { t.stream with queue := rest }
    tracker := (t.tracker.receive now u).2.1 }
  := by
  rw [take, h]

theorem hasSender_stop (o : Outcome) (t : Task) :
  (t.stop o).stream.hasSender = t.stream.hasSender
  := by
  rw [stop, Subscription.drop, Subscription.unsubscribe]
  split <;> rfl

/-- A step of a task: it notes that its stream is closed, or it takes an update. -/
theorem step_cases {t t' : Task} {now : BitVec 64} {ds : List Deed}
    (h : t.step now = some (ds, t')) :
  t.outcome = none ∧
    ((t.stream.queue = [] ∧ t.stream.accepts = false ∧ ds = []
        ∧ t' = t.stop t.tracker.abandon)
      ∨ ∃ u rest, t.stream.queue = u :: rest ∧ ds = (t.tracker.receive now u).1
        ∧ t' = t.take now u rest)
  := by
  rw [step] at h
  cases hout : t.outcome with
  | some o =>
    rw [isFinished, hout] at h
    cases h
  | none =>
    use rfl
    rw [isFinished, hout, Subscription.next] at h
    cases hqueue : t.stream.queue with
    | nil =>
      left
      cases hacc : t.stream.accepts with
      | true => simp [hqueue, hacc] at h
      | false =>
        simp only [hqueue, hacc, Option.isSome_none, Bool.false_eq_true, if_false,
          Option.some.injEq, Prod.mk.injEq] at h
        use rfl, rfl, h.1.symm, h.2.symm
    | cons u rest =>
      right
      simp only [hqueue, Option.isSome_none, Bool.false_eq_true, if_false,
        Option.some.injEq, Prod.mk.injEq] at h
      use u, rest, rfl, h.1.symm, h.2.symm

theorem upcoming_eq_none {t : Task} {now : BitVec 64} (h : t.step now = none) :
  t.upcoming = none
  := by
  rw [step, Subscription.next] at h
  rw [upcoming]
  cases hfin : t.isFinished with
  | true => rfl
  | false =>
    cases hqueue : t.stream.queue with
    | nil => rfl
    | cons u rest => simp [hfin, hqueue] at h

theorem upcoming_eq_some {t : Task} {u : Update} (h : t.upcoming = some u) :
  ∃ rest, t.outcome = none ∧ t.stream.queue = u :: rest
  := by
  rw [upcoming, isFinished] at h
  cases hout : t.outcome with
  | some o => simp [hout] at h
  | none =>
    rw [hout] at h
    obtain ⟨rest, hrest⟩ := List.head?_eq_some_iff.1 h
    use rest

/-- The step of a task that takes an update. -/
theorem step_of_upcoming {t : Task} {u : Update} {rest : List Update} (hrun : t.outcome = none)
    (hqueue : t.stream.queue = u :: rest) (now : BitVec 64) :
  t.step now = some ((t.tracker.receive now u).1, t.take now u rest)
  := by
  simp [step, isFinished, hrun, Subscription.next, hqueue]

/-- A task has nothing to do when it has stopped, and when it waits for updates. -/
theorem step_eq_none_iff (t : Task) (now : BitVec 64) :
  t.step now = none ↔ t.isFinished ∨ (t.stream.queue = [] ∧ t.stream.accepts)
  := by
  rw [step, Subscription.next]
  cases t.isFinished with
  | true => simp
  | false =>
    cases hqueue : t.stream.queue with
    | nil => cases hacc : t.stream.accepts <;> simp
    | cons u rest => simp

end Task

namespace Executor

/-! ### Deeds -/

theorem act_eq (x : Executor) (d : Deed) :
  x.act d = { x with
    store := (writes [d]).foldl Store.write x.store
    deeds := x.deeds ++ [d] }
  := by
  cases d <;> rfl

/-- Doing deeds changes the store and the deeds, and nothing else. -/
theorem actAll_eq (x : Executor) (ds : List Deed) :
  x.actAll ds = { x with
    store := (writes ds).foldl Store.write x.store
    deeds := x.deeds ++ ds }
  := by
  induction ds generalizing x with
  | nil => simp [actAll]
  | cons d ds ih =>
    have hcons : writes (d :: ds) = writes [d] ++ writes ds := writes_append [d] ds
    change (x.act d).actAll ds = _
    rw [ih, act_eq, hcons, List.foldl_append]
    simp

/-! ### Streams -/

/-- The task whose stream is attached to a feed. -/
def attached (x : Executor) (feed : Nat) : Option Nat := x.feeds[feed]?.bind Feed.attached

theorem attached_modifyFeed (x : Executor) (l l' : Nat) (f : Feed → Feed) :
  (x.modifyFeed l f).attached l'
    = if l = l' then x.feeds[l']?.bind fun g => (f g).attached else x.attached l'
  := by
  rw [attached, attached, modifyFeed, List.getElem?_modify]
  cases x.feeds[l']? with
  | none => simp
  | some g => by_cases hll' : l = l' <;> simp [hll']

theorem getElem?_modifyTask (x : Executor) (i j : Nat) (f : Task → Task) :
  (x.modifyTask i f).tasks[j]? = if i = j then x.tasks[j]?.map f else x.tasks[j]?
  := by
  rw [modifyTask, List.getElem?_modify]
  split <;> simp

/-- Waking a task changes the queue only. -/
theorem wake_eq (x : Executor) (i : Nat) :
  ∃ queue, x.wake i = { x with queue }
  := by
  rw [wake]
  split
  · use x.queue
  · use x.queue ++ [i]

theorem closeStream_eq (x : Executor) (i : Nat) :
  ∃ queue, x.closeStream i = { x with tasks := x.tasks.modify i Task.close, queue }
  := (x.modifyTask i Task.close).wake_eq i

/-- A feed that lets go of its stream closes it. -/
theorem detach_eq (x : Executor) (feed : Nat) :
  ∃ queue, x.detach feed = { x with
    queue
    feeds := x.feeds.modify feed fun f => { f with attached := none }
    tasks := match x.attached feed with
      | some i => x.tasks.modify i Task.close
      | none => x.tasks }
  := by
  rw [detach, attached]
  rcases hf : x.feeds[feed]? with _ | ⟨p, _ | i, n, m⟩
  · use x.queue
    rw [List.modify_eq_self (List.getElem?_eq_none_iff.1 hf)]
    rfl
  · use x.queue
    obtain ⟨hl, hget⟩ := List.getElem?_eq_some_iff.1 hf
    have hkept : x.feeds.set feed ⟨p, none, n, m⟩ = x.feeds := by
      rw [← hget, List.set_getElem_self]
    rw [modify_of_getElem? hf, hkept]
    rfl
  · apply (x.modifyFeed feed fun f => { f with attached := none }).closeStream_eq i

theorem feeds_detach (x : Executor) (feed : Nat) :
  (x.detach feed).feeds = x.feeds.modify feed fun f => { f with attached := none }
  := by
  obtain ⟨queue, h⟩ := x.detach_eq feed
  rw [h]

theorem tasks_detach (x : Executor) (feed : Nat) :
  (x.detach feed).tasks
    = match x.attached feed with
      | some i => x.tasks.modify i Task.close
      | none => x.tasks
  := by
  obtain ⟨queue, h⟩ := x.detach_eq feed
  rw [h]

theorem length_detach (x : Executor) (feed : Nat) :
  (x.detach feed).tasks.length = x.tasks.length
  := by
  rw [tasks_detach]
  split
  · apply List.length_modify
  · rfl

theorem getElem?_detach (x : Executor) (feed j : Nat) :
  ∃ c, (x.detach feed).tasks[j]? = x.tasks[j]?.map (Task.closeIf c)
  := by
  rw [tasks_detach]
  cases x.attached feed with
  | none =>
    use false
    simp
  | some i =>
    use decide (i = j)
    apply (x.getElem?_modifyTask i j Task.close).trans
    by_cases hij : i = j <;> simp [hij]

/-! ### Tasks -/

/-- What a stopping task leaves: its own stream is dropped, and perhaps the stream at its feed
is closed. -/
theorem stop_eq {x : Executor} {i : Nat} {t : Task} (h : x.tasks[i]? = some t) (o : Outcome) :
  ∃ feeds queue tasks, x.stop i o = { x with feeds, queue, tasks }
    ∧ ∀ j, ∃ c, tasks[j]?
      = (if i = j then some (t.stop o) else x.tasks[j]?).map (Task.closeIf c)
  := by
  let y := (x.modifyTask i fun t => { t with outcome := some o }).modifyTask i
    fun t => { t with stream := t.stream.drop }
  have hy (j : Nat) : y.tasks[j]? = if i = j then some (t.stop o) else x.tasks[j]? := by
    rw [getElem?_modifyTask, getElem?_modifyTask]
    by_cases hij : i = j
    · rw [if_pos hij, if_pos hij, if_pos hij, ← hij, h]
      rfl
    · rw [if_neg hij, if_neg hij, if_neg hij]
  rw [stop, cancel, getElem?_modifyTask, if_pos rfl, h]
  dsimp only [Option.map_some]
  split
  · let z := y.modifyFeed t.feed fun f => { f with unsubscribed := f.unsubscribed + 1 }
    obtain ⟨queue, hz⟩ := z.detach_eq t.feed
    refine ⟨(z.detach t.feed).feeds, queue, (z.detach t.feed).tasks, ?_, ?_⟩
    · apply hz.trans
      rw [hz]
      rfl
    · intro j
      obtain ⟨c, hc⟩ := z.getElem?_detach t.feed j
      use c
      rw [hc, ← hy]
      rfl
  · refine ⟨x.feeds, x.queue, y.tasks, rfl, ?_⟩
    intro j
    use false
    rw [hy]
    simp

theorem step_eq_none {x : Executor} {now : BitVec 64} {i : Nat}
    (h : ∀ t, x.tasks[i]? = some t → t.step now = none) :
  x.step now i = none
  := by
  rw [step]
  cases ht : x.tasks[i]? with
  | none => rfl
  | some t =>
    rcases (t.step_eq_none_iff now).1 (h t ht) with hfin | ⟨hqueue, hacc⟩
    · simp [hfin]
    · simp [Subscription.next, hqueue, hacc]

/-- A step of a task in the executor is its step by itself. Other tasks at most find their
streams closed. -/
theorem step_eq_some {x : Executor} {now : BitVec 64} {i : Nat} {t t' : Task} {ds : List Deed}
    (h : x.tasks[i]? = some t) (hstep : t.step now = some (ds, t')) :
  ∃ feeds queue tasks,
    x.step now i = some { x with
      feeds, queue, tasks
      store := (writes ds).foldl Store.write x.store
      deeds := x.deeds ++ ds }
    ∧ ∀ j, ∃ c, tasks[j]?
      = (if i = j then some t' else x.tasks[j]?).map (Task.closeIf c)
  := by
  rw [step, h]
  dsimp only
  obtain ⟨hrun, ⟨hqueue, hacc, rfl, rfl⟩ | ⟨u, rest, hqueue, rfl, rfl⟩⟩ := Task.step_cases hstep
  · obtain ⟨feeds, queue, tasks, hstop, htasks⟩ := stop_eq h t.tracker.abandon
    refine ⟨feeds, queue, tasks, ?_, htasks⟩
    simp [Task.isFinished, hrun, Subscription.next, hqueue, hacc, hstop]
  · let taken : Task := { t with
      stream := { t.stream with queue := rest }
      tracker := (t.tracker.receive now u).2.1 }
    let y := (x.modifyTask i fun s =>
      { s with stream := taken.stream, tracker := taken.tracker }).actAll
        (t.tracker.receive now u).1
    have hacted := actAll_eq (x.modifyTask i fun s =>
      { s with stream := taken.stream, tracker := taken.tracker }) (t.tracker.receive now u).1
    have hy (j : Nat) : y.tasks[j]? = if i = j then some taken else x.tasks[j]? := by
      rw [show y = _ from hacted]
      apply (x.getElem?_modifyTask i j _).trans
      by_cases hij : i = j
      · rw [if_pos hij, if_pos hij, ← hij, h]
        rfl
      · rw [if_neg hij, if_neg hij]
    simp only [Task.isFinished, hrun, Option.isSome_none, Bool.false_eq_true, if_false,
      Subscription.next, hqueue]
    rw [Task.take]
    cases hout : (t.tracker.receive now u).2.2 with
    | none =>
      refine ⟨x.feeds, x.queue, y.tasks, ?_, ?_⟩
      · change some y = _
        rw [show y = _ from hacted]
        rfl
      · intro j
        use false
        rw [hy]
        simp [taken]
    | some o =>
      obtain ⟨feeds, queue, tasks, hstop, htasks⟩ :=
        stop_eq (x := y) ((hy i).trans (if_pos rfl)) o
      refine ⟨feeds, queue, tasks, ?_, ?_⟩
      · change some (y.stop i o) = _
        rw [hstop, show y = _ from hacted]
        rfl
      · intro j
        obtain ⟨c, hc⟩ := htasks j
        use c
        rw [hc, hy]
        split <;> rfl

/-- A task has something to do in the executor when it has by itself. -/
theorem step_eq_none_iff {x : Executor} {i : Nat} {t : Task} (h : x.tasks[i]? = some t)
    (now : BitVec 64) :
  x.step now i = none ↔ t.step now = none
  := by
  constructor
  · intro hx
    cases hstep : t.step now with
    | none => rfl
    | some r =>
      obtain ⟨feeds, queue, tasks, hsome, -⟩ := step_eq_some h hstep
      rw [hx] at hsome
      cases hsome
  · intro ht
    apply step_eq_none
    intro s hs
    rw [h] at hs
    cases hs
    apply ht

/-! ### Sending -/

/-- The task that an update sent through a feed reaches. -/
def receiver? (x : Executor) (feed : Nat) : Option Nat :=
  if x.isSubscribed feed then x.attached feed else none

theorem isSubscribed_eq (x : Executor) (feed : Nat) :
  x.isSubscribed feed
    = (x.attached feed).any fun i => x.tasks[i]?.any fun t => t.stream.accepts
  := by
  rw [isSubscribed, attached]
  rcases x.feeds[feed]? with _ | ⟨p, _ | i, n, m⟩
  · rfl
  · rfl
  · dsimp only [Option.bind_some, Option.any_some]
    cases x.tasks[i]? <;> rfl

theorem receiver?_eq_some {x : Executor} {feed i : Nat} (h : x.receiver? feed = some i) :
  ∃ t, x.tasks[i]? = some t ∧ t.stream.accepts
  := by
  rw [receiver?, Option.ite_none_right_eq_some, isSubscribed_eq] at h
  obtain ⟨hany, hattached⟩ := h
  rw [hattached, Option.any_some] at hany
  obtain ⟨t, ht, hacc⟩ := (Option.any_eq_true _ _).1 hany
  use t, ht, hacc

/-- An update that is sent reaches one task, or none. -/
theorem send_eq (x : Executor) (feed : Nat) (u : Update) :
  ∃ queue, x.send feed u = { x with
    queue
    tasks := match x.receiver? feed with
      | some i => x.tasks.modify i (Task.deliver u)
      | none => x.tasks }
  := by
  rw [send, receiver?, attached]
  cases hs : x.isSubscribed feed with
  | false =>
    use x.queue
    split <;> rfl
  | true =>
    rcases hf : x.feeds[feed]? with _ | ⟨p, _ | i, n, m⟩
    · use x.queue
      rfl
    · use x.queue
      rfl
    · apply (x.modifyTask i (Task.deliver u)).wake_eq i

/-! ### Submission -/

theorem foldl_send (us : List Update) {s : Subscription} (h : s.accepts) :
  us.foldl (fun s u => Subscription.send u s) s = { s with queue := s.queue ++ us }
  := by
  induction us generalizing s with
  | nil => simp
  | cons u us ih =>
    rw [List.foldl_cons, Subscription.send, if_pos h, ih (by exact h)]
    simp

/-- Whether the submission of a call is granted, or why it is refused. -/
def Mode.grant (mode : Mode) (p : PreparedCall) : Except SubmissionError Unit := do
  mode.authorize p.hash
  match p.rejection with
  | some reason => .error (.submission reason)
  | none => .ok ()

/-- A submission is granted when it is signed, if it has to be, and the node does not reject
it. -/
theorem Mode.grant_eq_ok_iff (mode : Mode) (p : PreparedCall) :
  mode.grant p = .ok () ↔ mode.authorize p.hash = .ok () ∧ p.rejection = none
  := by
  rw [grant]
  cases mode.authorize p.hash with
  | error e =>
    change Except.error e = _ ↔ _
    simp
  | ok _ =>
    change (match p.rejection with
      | some reason => Except.error (SubmissionError.submission reason)
      | none => .ok ()) = _ ↔ _
    cases p.rejection <;> simp

/-- Whether a signer is asked who refuses. -/
def Mode.refuses : Mode → Bool
  | .signed _ signer => signer.refuses
  | .unsigned => false

/-- A submission that fails to be signed, or is rejected, is refused. -/
theorem Mode.grant_of_refuses {mode : Mode} {p : PreparedCall}
    (h : mode.refuses ∨ p.rejection.isSome) :
  ∃ e, mode.grant p = .error e
  := by
  cases hgrant : mode.grant p with
  | error e => use e
  | ok _ =>
    obtain ⟨hauth, hrejection⟩ := (mode.grant_eq_ok_iff p).1 hgrant
    rw [hrejection] at h
    rcases h with h | h
    · cases mode with
      | unsigned => cases h
      | signed sender signer =>
        rw [refuses] at h
        simp [authorize, Signer.sign, h] at hauth
    · cases h

/-- The executor once the submission of a call is counted. -/
def counted (x : Executor) (mode : Mode) : Executor :=
  { x with deeds := x.deeds ++ [.count (.submitted mode.kind)] }

theorem submit_eq (x : Executor) (feed : Nat) (mode : Mode) (callbacks : Callbacks)
    (client : Client) :
  x.submit feed mode callbacks client
    = match x.feeds[feed]? with
      | none => (x, .error (.submission ""))
      | some f =>
        match mode.grant f.prepared with
        | .error e => ((x.counted mode).act (.count (.error "executor" e.code)), .error e)
        | .ok () =>
          let (y, i) := (x.counted mode).subscribe feed f.prepared mode callbacks client
          (y, .ok i)
  := rfl

/-- A refused submission does nothing, except that it is counted. -/
theorem submit_error {x : Executor} {feed : Nat} {mode : Mode} {callbacks : Callbacks}
    {client : Client} {e : SubmissionError}
    (h : (x.submit feed mode callbacks client).2 = .error e) :
  ∃ ds, writes ds = []
    ∧ (x.submit feed mode callbacks client).1 = { x with deeds := x.deeds ++ ds }
  := by
  rw [submit_eq] at h ⊢
  cases hf : x.feeds[feed]? with
  | none =>
    use []
    simp
  | some f =>
    simp only [hf] at h ⊢
    cases hgrant : mode.grant f.prepared with
    | error e' =>
      use [.count (.submitted mode.kind), .count (.error "executor" e'.code)]
      simp [writes_cons, counted, act]
    | ok _ =>
      rw [hgrant] at h
      cases h

/-- A subscription adds a task. -/
theorem subscribe_eq (x : Executor) (feed : Nat) (p : PreparedCall) (mode : Mode)
    (callbacks : Callbacks) (client : Client) :
  ∃ queue, x.subscribe feed p mode callbacks client
    = ({ x with
        queue
        feeds := (x.detach feed).feeds.modify feed fun f =>
          { f with attached := some x.tasks.length, submissions := f.submissions + 1 }
        tasks := (x.detach feed).tasks ++ [Task.opening client feed p mode callbacks] },
      x.tasks.length)
  := by
  obtain ⟨queue, h⟩ := x.detach_eq feed
  let task := Task.opening client feed p mode callbacks
  let y := { x.detach feed with tasks := (x.detach feed).tasks ++ [task] }.modifyFeed feed
    fun f => { f with attached := some x.tasks.length, submissions := f.submissions + 1 }
  obtain ⟨queue', hwake⟩ := y.wake_eq x.tasks.length
  use queue'
  have hstream := foldl_send p.script (s := Subscription.start) rfl
  have hsubscribe : x.subscribe feed p mode callbacks client
      = (y.wake x.tasks.length, x.tasks.length) := by
    rw [subscribe, hstream]
    rfl
  rw [hsubscribe, hwake]
  simp only [y, modifyFeed, h]
  rfl

/-- A granted submission has a new task. -/
theorem submit_ok {x : Executor} {feed i : Nat} {mode : Mode} {callbacks : Callbacks}
    {client : Client} (h : (x.submit feed mode callbacks client).2 = .ok i) :
  i = x.tasks.length
    ∧ ∃ f, x.feeds[feed]? = some f ∧ mode.grant f.prepared = .ok ()
      ∧ ∃ feeds queue, (x.submit feed mode callbacks client).1 = { x with
          feeds, queue
          deeds := x.deeds ++ [.count (.submitted mode.kind)]
          tasks := (x.detach feed).tasks
            ++ [Task.opening client feed f.prepared mode callbacks] }
  := by
  rw [submit_eq] at h ⊢
  cases hf : x.feeds[feed]? with
  | none =>
    rw [hf] at h
    cases h
  | some f =>
    simp only [hf] at h ⊢
    cases hgrant : mode.grant f.prepared with
    | error e =>
      rw [hgrant] at h
      cases h
    | ok _ =>
      obtain ⟨queue, hsubscribe⟩ :=
        (x.counted mode).subscribe_eq feed f.prepared mode callbacks client
      simp only [hgrant, hsubscribe] at h ⊢
      cases h
      have hdetach : ((x.counted mode).detach feed).tasks = (x.detach feed).tasks := by
        rw [tasks_detach, tasks_detach]
        rfl
      rw [hdetach]
      exact ⟨rfl, f, rfl, hgrant, _, queue, rfl⟩

end Executor

end Extrinsics
