import Extrinsics.Proofs.Tracking.Frame
import Extrinsics.Samples

/-!
# Runs of the executor

A run is a list of actions, in any order, from an executor that has done nothing yet. The
history of a task in a run is what it received, what it took and when, and what it did. An
action opens a task, or it moves each task by itself.

A task follows its call: what it did is what its tracker does with the updates it took.
-/

namespace Extrinsics

/-! ### Actions -/

/-- One thing that happens to an executor. -/
inductive Executor.Action where
  | prepare (p : PreparedCall)
  /-- A call is submitted, through the client of the executor if no other one is given. -/
  | submit (feed : Nat) (mode : Executor.Mode) (callbacks : Callbacks)
    (through : Option Client := none)
  | send (feed : Nat) (u : Update)
  /-- The stream that is attached to a feed is closed. -/
  | close (feed : Nat)
  /-- A task makes one step, if it has something to do. -/
  | advance (now : BitVec 64) (i : Nat)
  /-- The tasks that wait for their turn are put in another order. -/
  | arrange (queue aside : List Nat)

/-- What a task received, what it took, and what it did. -/
structure History where
  received : List Update
  taken : List Taken
  done : List Deed

namespace History

/-- The history of nothing. -/
def empty : History := ⟨[], [], []⟩

/-- One history after the other. -/
def append (h h' : History) : History :=
  ⟨h.received ++ h'.received, h.taken ++ h'.taken, h.done ++ h'.done⟩

@[simp] theorem append_empty (h : History) :
  h.append empty = h
  := by
  simp [append, empty]

@[simp] theorem empty_append (h : History) :
  empty.append h = h
  := rfl

theorem append_assoc (h h' h'' : History) :
  (h.append h').append h'' = h.append (h'.append h'')
  := by
  simp [append]

end History

namespace Executor

/-- The executor after an action. -/
def perform (x : Executor) : Action → Executor
  | .prepare p => (x.prepare p).1
  | .submit feed mode callbacks through =>
    (x.submit feed mode callbacks (through.getD x.client)).1
  | .send feed u => x.send feed u
  | .close feed => x.detach feed
  | .advance now i => (x.step now i).getD x
  | .arrange queue aside => { x with queue, aside }

/-- The executor after actions that happen one after the other. -/
def performAll (x : Executor) (as : List Action) : Executor := as.foldl perform x

/-- The executor after a run. -/
def run (client : Client) (as : List Action) : Executor := (start client).performAll as

/-- The updates that are sent at once when a call is submitted. -/
def script (x : Executor) (feed : Nat) : List Update :=
  x.feeds[feed]?.toList.flatMap fun f => f.prepared.script

/-- The part of a task in an action. -/
def part (j : Nat) (x : Executor) : Action → History
  | .submit feed mode callbacks through =>
    match (x.submit feed mode callbacks (through.getD x.client)).2 with
    | .ok i => if i = j then ⟨x.script feed, [], []⟩ else .empty
    | .error _ => .empty
  | .send feed u => if x.receiver? feed = some j then ⟨[u], [], []⟩ else .empty
  | .advance now i =>
    if i = j then
      ⟨[], (x.tasks[j]?.bind Task.upcoming).toList.map fun u => (now, u),
        (x.perform (.advance now i)).deeds.drop x.deeds.length⟩
    else .empty
  | _ => .empty

/-- The history of a task in actions that happen to an executor. -/
def parts (j : Nat) : Executor → List Action → History
  | _, [] => .empty
  | x, a :: as => (x.part j a).append (parts j (x.perform a) as)

/-- The history of a task in a run. -/
def history (client : Client) (as : List Action) (j : Nat) : History :=
  (start client).parts j as

theorem performAll_append (x : Executor) (as bs : List Action) :
  x.performAll (as ++ bs) = (x.performAll as).performAll bs
  := List.foldl_append

theorem run_concat (client : Client) (as : List Action) (a : Action) :
  run client (as ++ [a]) = (run client as).perform a
  := (start client).performAll_append as [a]

theorem parts_append (j : Nat) (x : Executor) (as bs : List Action) :
  x.parts j (as ++ bs) = (x.parts j as).append ((x.performAll as).parts j bs)
  := by
  induction as generalizing x with
  | nil => rfl
  | cons a as ih =>
    rw [List.cons_append, parts, ih, parts, History.append_assoc]
    rfl

theorem history_concat (client : Client) (as : List Action) (a : Action) (j : Nat) :
  history client (as ++ [a]) j = (history client as j).append ((run client as).part j a)
  := by
  rw [history, parts_append, parts, parts, History.append_empty]
  rfl

end Executor

namespace Samples

/-- A client that knows no errors. -/
def client : Client := ⟨"picasso", .empty⟩

/-- A prepared transfer. -/
def preparedTransfer : PreparedCall := ⟨transfer, "0xABC", none, []⟩

/-- A transfer is submitted, becomes ready, is included in a block, and the block is
finalized. Its task takes every update at once. -/
def transferRun : List Executor.Action :=
  [.prepare preparedTransfer,
    .submit 0 .unsigned ⟨some .returns, some .returns, none⟩,
    .send 0 (.ofStatus "0xABC" .ready), .advance 1 0,
    .send 0 (.ofStatus "0xABC" (.inBlock "0xB1")), .advance 2 0,
    .send 0 (.ofStatus "0xABC" (.finalized "0xB1")), .advance 3 0]

/-- The same claim is submitted twice without a signature. The call of the first task is
finalized. -/
def twinRun : List Executor.Action :=
  [.prepare ⟨claim, "0xABC", none, []⟩, .prepare ⟨claim, "0xABC", none, []⟩,
    .submit 0 .unsigned ⟨none, none, none⟩, .submit 1 .unsigned ⟨none, none, none⟩,
    .send 0 (.ofStatus "0xABC" .ready), .advance 1 0,
    .send 1 (.ofStatus "0xABC" .ready), .advance 2 1,
    .send 0 (.ofStatus "0xABC" (.finalized "0xB1")), .advance 3 0]

/-- A prepared claim. -/
def preparedClaim : PreparedCall := ⟨claim, "0xDEF", none, []⟩

/-- A transfer by Alice and a claim are tracked at the same time. -/
def interleavedRun : List Executor.Action :=
  [.prepare preparedTransfer, .prepare preparedClaim,
    .submit 0 (.signed alice ⟨false, 0⟩) ⟨none, some .returns, none⟩,
    .submit 1 .unsigned ⟨some .returns, none, some .breaksOff⟩,
    .send 1 (.ofStatus "0xdef" .ready), .send 0 (.ofStatus "0xABC" .ready),
    .advance 1 1, .send 0 (.ofStatus "0xabc" (.inBlock "0xB1")), .advance 2 0,
    .send 1 ⟨"0xDEF", .inBlock "0xB2", some .badOrigin, []⟩, .advance 3 1, .advance 4 0]

end Samples

/-! ### The moves of a task -/

/-- How an action changes a task, and the part of the task in it. -/
inductive Task.Moves (t : Task) : History → Task → Prop where
  /-- The action is about something else. It may close the stream of the task. -/
  | rest (c : Bool) : t.Moves .empty (t.closeIf c)
  | receive (u : Update) : t.stream.accepts → t.Moves ⟨[u], [], []⟩ (t.deliver u)
  /-- The task notes that its stream is closed. -/
  | abandon (c : Bool) : t.outcome = none → t.stream.queue = [] → t.stream.accepts = false →
    t.Moves .empty ((t.stop t.tracker.abandon).closeIf c)
  | take (now : BitVec 64) (u : Update) (rest : List Update) (c : Bool) :
    t.outcome = none → t.stream.queue = u :: rest →
    t.Moves ⟨[], [(now, u)], (t.tracker.receive now u).1⟩ ((t.take now u rest).closeIf c)

/-- A call as it is submitted: the prepared call at a feed, and what is given with it. -/
structure Submission where
  feed : Nat
  prepared : PreparedCall
  mode : Executor.Mode
  callbacks : Callbacks
  client : Client

/-- The task of a submission. -/
def Submission.opening (s : Submission) : Task :=
  Task.opening s.client s.feed s.prepared s.mode s.callbacks

namespace Executor

theorem getElem?_modify_deliver (x : Executor) (i j : Nat) (u : Update) :
  (x.tasks.modify i (Task.deliver u))[j]?
    = if i = j then x.tasks[j]?.map (Task.deliver u) else x.tasks[j]?
  := x.getElem?_modifyTask i j _

/-- A task waits, or it makes a step. -/
theorem perform_advance (x : Executor) (now : BitVec 64) (i : Nat) :
  (x.perform (.advance now i) = x ∧ ∀ t, x.tasks[i]? = some t → t.step now = none)
    ∨ ∃ t ds t', x.tasks[i]? = some t ∧ t.step now = some (ds, t')
      ∧ ∃ feeds queue tasks,
        x.perform (.advance now i) = { x with
          feeds, queue, tasks
          store := (writes ds).foldl Store.write x.store
          deeds := x.deeds ++ ds }
        ∧ ∀ j, ∃ c, tasks[j]?
          = (if i = j then some t' else x.tasks[j]?).map (Task.closeIf c)
  := by
  by_cases h : ∃ t r, x.tasks[i]? = some t ∧ t.step now = some r
  · obtain ⟨t, ⟨ds, t'⟩, ht, hstep⟩ := h
    obtain ⟨feeds, queue, tasks, hx, htasks⟩ := step_eq_some ht hstep
    right
    use t, ds, t', ht, hstep, feeds, queue, tasks
    rw [perform, hx]
    use rfl
  · left
    have hnone (t : Task) (ht : x.tasks[i]? = some t) : t.step now = none := by
      apply Option.eq_none_iff_forall_ne_some.2
      intro r hr
      apply h ⟨t, r, ht, hr⟩
    use by rw [perform, step_eq_none hnone]; rfl

/-- An action moves each task that is there. -/
theorem moves_perform {x : Executor} {j : Nat} {t : Task} (h : x.tasks[j]? = some t)
    (a : Action) :
  ∃ t', (x.perform a).tasks[j]? = some t' ∧ t.Moves (x.part j a) t'
  := by
  cases a with
  | prepare p => use t, h, .rest false
  | arrange queue aside => use t, h, .rest false
  | close feed =>
    obtain ⟨c, hc⟩ := x.getElem?_detach feed j
    use t.closeIf c
    constructor
    · rw [perform, hc, h]
      rfl
    · apply Task.Moves.rest
  | send feed u =>
    obtain ⟨queue, hsend⟩ := x.send_eq feed u
    rw [perform, part, hsend]
    cases hr : x.receiver? feed with
    | none => use t, h, .rest false
    | some i =>
      rw [getElem?_modify_deliver, h]
      by_cases hij : i = j
      · subst hij
        obtain ⟨s, hs, hacc⟩ := receiver?_eq_some hr
        rw [h] at hs
        cases hs
        use t.deliver u
        rw [if_pos rfl, if_pos rfl]
        use rfl
        apply Task.Moves.receive u hacc
      · use t
        rw [if_neg hij, if_neg (mt Option.some.inj hij)]
        use rfl
        apply Task.Moves.rest false
  | submit feed mode callbacks through =>
    rw [perform, part]
    cases hsubmit : (x.submit feed mode callbacks (through.getD x.client)).2 with
    | error e =>
      obtain ⟨ds, -, hx⟩ := submit_error hsubmit
      rw [hx]
      use t, h, .rest false
    | ok i =>
      obtain ⟨hi, f, -, -, feeds, queue, hx⟩ := submit_ok hsubmit
      obtain ⟨hj, -⟩ := List.getElem?_eq_some_iff.1 h
      obtain ⟨c, hc⟩ := x.getElem?_detach feed j
      rw [h] at hc
      obtain ⟨hj', -⟩ := List.getElem?_eq_some_iff.1 hc
      use t.closeIf c
      rw [hx]
      constructor
      · rw [List.getElem?_append_left hj', hc]
        rfl
      · dsimp only
        rw [if_neg (by omega)]
        apply Task.Moves.rest
  | advance now i =>
    rcases x.perform_advance now i with
      ⟨hx, hnone⟩ | ⟨s, ds, s', hs, hstep, feeds, queue, tasks, hx, htasks⟩
    · rw [part, hx]
      use t, h
      split
      · rename_i hij
        have hup : t.upcoming = none := Task.upcoming_eq_none (hnone t (hij ▸ h))
        rw [h, Option.bind_some, hup, List.drop_length]
        apply Task.Moves.rest false
      · apply Task.Moves.rest false
    · obtain ⟨c, hc⟩ := htasks j
      rw [part, hx]
      by_cases hij : i = j
      · subst hij
        rw [h] at hs
        cases hs
        rw [if_pos rfl] at hc
        use s'.closeIf c, hc
        rw [if_pos rfl, h, Option.bind_some, List.drop_left]
        obtain ⟨hrun, ⟨hqueue, hacc, rfl, rfl⟩ | ⟨u, rest, hqueue, rfl, rfl⟩⟩ :=
          Task.step_cases hstep
        · rw [Task.upcoming, Task.isFinished, hrun, hqueue]
          apply Task.Moves.abandon c hrun hqueue hacc
        · rw [Task.upcoming, Task.isFinished, hrun, hqueue]
          apply Task.Moves.take now u rest c hrun hqueue
      · rw [if_neg hij, h] at hc
        use t.closeIf c, hc
        rw [if_neg hij]
        apply Task.Moves.rest

/-- The action is a submission that is granted, with the given task. -/
structure Grants (x : Executor) (a : Action) (s : Submission) (i : Nat) : Prop where
  action : ∃ through : Option Client,
    a = .submit s.feed s.mode s.callbacks through ∧ s.client = through.getD x.client
  prepared : (x.feeds.map Feed.prepared)[s.feed]? = some s.prepared
  granted : (x.submit s.feed s.mode s.callbacks s.client).2 = .ok i

namespace Grants

variable {x : Executor} {a : Action} {s : Submission} {i : Nat} (h : x.Grants a s i)

include h

/-- A submission has the next task. -/
theorem eq_length :
  i = x.tasks.length
  := (submit_ok h.granted).1

/-- The call was known at its feed, and neither the signer nor the node refuses it. -/
theorem exists_feed :
  ∃ f, x.feeds[s.feed]? = some f ∧ f.prepared = s.prepared ∧ s.mode.grant s.prepared = .ok ()
  := by
  obtain ⟨-, f, hf, hgrant, -⟩ := submit_ok h.granted
  have hprepared := h.prepared
  rw [List.getElem?_map, hf] at hprepared
  use f, hf, Option.some.inj hprepared
  rwa [← Option.some.inj hprepared]

/-- A submission opens its task. -/
theorem opens :
  (x.perform a).tasks[i]? = some s.opening ∧ x.part i a = ⟨s.prepared.script, [], []⟩
  := by
  obtain ⟨f, hf, hprepared, -⟩ := h.exists_feed
  obtain ⟨through, rfl, hclient⟩ := h.action
  obtain ⟨hi, f', hf', -, feeds, queue, hx⟩ := submit_ok h.granted
  cases hf.symm.trans hf'
  rw [perform, part, ← hclient, h.granted, hx]
  dsimp only
  have hlength := x.length_detach s.feed
  rw [List.getElem?_append_right (by omega), hlength, hi, Nat.sub_self, if_pos rfl, script, hf,
    hprepared]
  simp [Submission.opening, hprepared]

/-- An action is one submission only. -/
theorem unique {s' : Submission} {i' : Nat} (h' : x.Grants a s' i') :
  s = s'
  := by
  obtain ⟨through, rfl, hclient⟩ := h.action
  obtain ⟨through', ha, hclient'⟩ := h'.action
  have hprepared := h.prepared
  have hprepared' := h'.prepared
  cases s with
  | mk feed p mode callbacks client =>
    cases s' with
    | mk feed' p' mode' callbacks' client' =>
      cases ha
      cases hclient.trans hclient'.symm
      cases hprepared.symm.trans hprepared'
      rfl

end Grants

/-- An action opens at most one task. -/
theorem opens_perform {x : Executor} {j : Nat} (h : x.tasks[j]? = none) (a : Action) :
  ((x.perform a).tasks[j]? = none ∧ x.part j a = .empty)
    ∨ ∃ s : Submission, x.Grants a s j ∧ (x.perform a).tasks[j]? = some s.opening
      ∧ x.part j a = ⟨s.prepared.script, [], []⟩
  := by
  cases a with
  | prepare p => exact .inl ⟨h, rfl⟩
  | arrange queue aside => exact .inl ⟨h, rfl⟩
  | close feed =>
    obtain ⟨c, hc⟩ := x.getElem?_detach feed j
    rw [h] at hc
    exact .inl ⟨hc, rfl⟩
  | send feed u =>
    left
    obtain ⟨queue, hsend⟩ := x.send_eq feed u
    rw [perform, part, hsend]
    cases hr : x.receiver? feed with
    | none => exact ⟨h, rfl⟩
    | some i =>
      have hij : i ≠ j := by
        rintro rfl
        obtain ⟨s, hs, -⟩ := receiver?_eq_some hr
        rw [h] at hs
        cases hs
      rw [getElem?_modify_deliver, if_neg hij, if_neg (mt Option.some.inj hij)]
      use h
  | submit feed mode callbacks through =>
    cases hsubmit : (x.submit feed mode callbacks (through.getD x.client)).2 with
    | error e =>
      obtain ⟨ds, -, hx⟩ := submit_error hsubmit
      rw [perform, part, hsubmit, hx]
      exact .inl ⟨h, rfl⟩
    | ok i =>
      obtain ⟨hi, f, hf, -, feeds, queue, hx⟩ := submit_ok hsubmit
      by_cases hij : i = j
      · right
        subst hij
        have hgrants : x.Grants (.submit feed mode callbacks through)
            ⟨feed, f.prepared, mode, callbacks, through.getD x.client⟩ i :=
          ⟨⟨through, rfl, rfl⟩, by rw [List.getElem?_map, hf]; rfl, hsubmit⟩
        exact ⟨_, hgrants, hgrants.opens⟩
      · left
        have hlength := x.length_detach feed
        have hj := List.getElem?_eq_none_iff.1 h
        rw [perform, part, hsubmit, hx]
        dsimp only
        rw [if_neg hij]
        constructor
        · apply List.getElem?_eq_none
          rw [List.length_append, List.length_singleton]
          omega
        · rfl
  | advance now i =>
    left
    have hj := List.getElem?_eq_none_iff.1 h
    rcases x.perform_advance now i with
      ⟨hx, -⟩ | ⟨s, ds, s', hs, -, feeds, queue, tasks, hx, htasks⟩
    · rw [part, hx, h]
      use rfl
      split
      · rw [List.drop_length]
        rfl
      · rfl
    · obtain ⟨hi, -⟩ := List.getElem?_eq_some_iff.1 hs
      obtain ⟨c, hc⟩ := htasks j
      rw [if_neg (by omega), h] at hc
      rw [part, hx, if_neg (by omega)]
      use hc

/-- An action does nothing that is written, unless a task takes an update. -/
theorem perform_eq (x : Executor) (a : Action) :
  ∃ feeds tasks queue aside ds,
    x.perform a = { x with
      feeds, tasks, queue, aside
      store := (writes ds).foldl Store.write x.store
      deeds := x.deeds ++ ds }
    ∧ (writes ds = [] ∨ ∃ now i t u, a = .advance now i ∧ x.tasks[i]? = some t
      ∧ t.upcoming = some u ∧ ds = (t.tracker.receive now u).1)
  := by
  cases a with
  | prepare p =>
    use x.feeds ++ [.ofCall p], x.tasks, x.queue, x.aside, []
    simp [perform, prepare]
  | arrange queue aside =>
    use x.feeds, x.tasks, queue, aside, []
    simp [perform]
  | close feed =>
    obtain ⟨queue, hx⟩ := x.detach_eq feed
    use (x.detach feed).feeds, (x.detach feed).tasks, queue, x.aside, []
    simp [perform, hx]
  | send feed u =>
    obtain ⟨queue, hx⟩ := x.send_eq feed u
    use x.feeds, (x.send feed u).tasks, queue, x.aside, []
    simp [perform, hx]
  | submit feed mode callbacks through =>
    rw [perform]
    cases hsubmit : (x.submit feed mode callbacks (through.getD x.client)).2 with
    | error e =>
      obtain ⟨ds, hds, hx⟩ := submit_error hsubmit
      exact ⟨x.feeds, x.tasks, x.queue, x.aside, ds, by simp [hx, hds], .inl hds⟩
    | ok i =>
      obtain ⟨-, f, -, -, feeds, queue, hx⟩ := submit_ok hsubmit
      exact ⟨feeds, _, queue, x.aside, [.count (.submitted mode.kind)], hx, .inl rfl⟩
  | advance now i =>
    rcases x.perform_advance now i with ⟨hx, -⟩ | ⟨t, ds, t', ht, hstep, feeds, queue, tasks, hx, -⟩
    · exact ⟨x.feeds, x.tasks, x.queue, x.aside, [], by simp [hx], .inl rfl⟩
    · refine ⟨feeds, tasks, queue, x.aside, ds, hx, ?_⟩
      obtain ⟨hrun, ⟨-, -, rfl, -⟩ | ⟨u, rest, hqueue, rfl, -⟩⟩ := Task.step_cases hstep
      · left
        rfl
      · right
        use now, i, t, u, rfl, ht
        rw [Task.upcoming, Task.isFinished, hrun, hqueue]
        exact ⟨rfl, rfl⟩

theorem client_perform (x : Executor) (a : Action) :
  (x.perform a).client = x.client
  := by
  obtain ⟨feeds, tasks, queue, aside, ds, hx, -⟩ := x.perform_eq a
  rw [hx]

/-- The store changes only when a task takes an update. -/
theorem store_perform (x : Executor) (a : Action) :
  (x.perform a).store = x.store
    ∨ ∃ now i t u, a = .advance now i ∧ x.tasks[i]? = some t ∧ t.upcoming = some u
  := by
  obtain ⟨feeds, tasks, queue, aside, ds, hx, hds | ⟨now, i, t, u, ha, ht, hup, -⟩⟩ :=
    x.perform_eq a
  · left
    rw [hx, hds]
    rfl
  · right
    use now, i, t, u

/-- Only the task that is advanced does anything. -/
theorem done_part (x : Executor) (j : Nat) (a : Action) :
  ((∀ now, a ≠ .advance now j) ∧ (x.part j a).done = [])
    ∨ ∃ now, a = .advance now j ∧ (x.part j a).done = (x.perform a).deeds.drop x.deeds.length
  := by
  cases a with
  | advance now i =>
    by_cases hij : i = j
    · right
      use now
      rw [part, if_pos hij, hij]
      use rfl
    · left
      rw [part, if_neg hij]
      constructor
      · rintro now' ⟨⟩
        apply hij rfl
      · rfl
  | prepare p => exact .inl ⟨by rintro now ⟨⟩, rfl⟩
  | arrange queue aside => exact .inl ⟨by rintro now ⟨⟩, rfl⟩
  | close feed => exact .inl ⟨by rintro now ⟨⟩, rfl⟩
  | send feed u =>
    left
    use by rintro now ⟨⟩
    rw [part]
    split <;> rfl
  | submit feed mode callbacks through =>
    left
    use by rintro now ⟨⟩
    rw [part]
    split
    · split <;> rfl
    · rfl

/-- What a task takes and does in its next step, by itself. -/
theorem part_advance {x : Executor} {k : Nat} {t : Task} (ht : x.tasks[k]? = some t)
    (now : BitVec 64) :
  x.part k (.advance now k)
    = ⟨[], t.upcoming.toList.map fun u => (now, u), ((t.step now).map Prod.fst).getD []⟩
  := by
  rw [part, if_pos rfl, ht, Option.bind_some]
  rcases x.perform_advance now k with
    ⟨hx, hnone⟩ | ⟨s, ds, s', hs, hstep, feeds, queue, tasks, hx, -⟩
  · rw [hx, hnone t ht, List.drop_length]
    rfl
  · cases ht.symm.trans hs
    rw [hx, hstep, List.drop_left]
    rfl

/-- What an action writes is written by one task. -/
theorem deeds_perform (x : Executor) (a : Action) :
  ∃ i ds, (x.perform a).deeds = x.deeds ++ ds
    ∧ (x.perform a).store = (writes ds).foldl Store.write x.store
    ∧ ∀ j, writes (x.part j a).done = if i = j then writes ds else []
  := by
  obtain ⟨feeds, tasks, queue, aside, ds, hx, hds⟩ := x.perform_eq a
  have hdrop : (x.perform a).deeds.drop x.deeds.length = ds := by
    rw [hx, List.drop_left]
  rcases hds with hnone | ⟨now, i, t, u, rfl, ht, hup, hds⟩
  · use 0, ds
    rw [hx, hnone]
    use rfl, rfl
    intro j
    rw [ite_self]
    rcases x.done_part j a with ⟨-, hdone⟩ | ⟨now, -, hdone⟩
    · rw [hdone]
      rfl
    · rw [hdone, hdrop, hnone]
  · use i, ds
    rw [hx]
    use rfl, rfl
    intro j
    rcases x.done_part j (.advance now i) with ⟨hother, hdone⟩ | ⟨now', ha, hdone⟩
    · have hij : i ≠ j := by
        rintro rfl
        apply hother now rfl
      rw [hdone, if_neg hij]
      rfl
    · cases ha
      rw [hdone, hdrop, if_pos rfl]

/-! ### Turns

Whatever the turns of the tasks are, they are a run. -/

theorem runTurn_eq (now : BitVec 64) (i steps : Nat) (x : Executor) :
  ∃ as, runTurn now i steps x = x.performAll as
  := by
  induction steps generalizing x with
  | zero =>
    rw [runTurn]
    split
    · use []
      rfl
    · use [.arrange x.queue (i :: x.aside)]
      rfl
  | succ steps ih =>
    rw [runTurn]
    cases h : x.step now i with
    | none =>
      use []
      rfl
    | some y =>
      obtain ⟨as, has⟩ := ih y
      have hperform : x.perform (.advance now i) = y := by
        rw [perform, h]
        rfl
      use .advance now i :: as
      rw [performAll, List.foldl_cons, hperform]
      apply has

theorem runTurns_eq (now : BitVec 64) (turns : Nat) (x : Executor) :
  ∃ as, runTurns now turns x = x.performAll as
  := by
  induction turns generalizing x with
  | zero =>
    use []
    rfl
  | succ turns ih =>
    rw [runTurns]
    cases hqueue : x.queue with
    | nil =>
      use []
      rfl
    | cons i queue =>
      obtain ⟨as, has⟩ := runTurn_eq now i turnLength { x with queue }
      obtain ⟨bs, hbs⟩ := ih (runTurn now i turnLength { x with queue })
      use .arrange queue x.aside :: as ++ bs
      rw [performAll_append]
      dsimp only
      rw [hbs, has]
      rfl

theorem runRounds_eq (now : BitVec 64) (bound : Nat) (x : Executor) :
  ∃ as, runRounds now bound x = x.performAll as
  := by
  induction bound generalizing x with
  | zero =>
    use []
    rfl
  | succ bound ih =>
    rw [runRounds]
    split
    · use []
      rfl
    · obtain ⟨as, has⟩ := runTurns_eq now roundLength x
      obtain ⟨bs, hbs⟩ := ih (x.runRound now)
      let y := runTurns now roundLength x
      use as ++ .arrange (y.queue ++ y.aside) [] :: bs
      rw [hbs, performAll_append, ← has]
      rfl

/-- Running all tasks until they wait is a run. -/
theorem settle_eq (now : BitVec 64) (x : Executor) :
  ∃ as, x.settle now = x.performAll as
  := runRounds_eq now x.pendingTurns x

end Executor

end Extrinsics
