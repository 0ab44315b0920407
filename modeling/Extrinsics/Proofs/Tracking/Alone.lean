import Extrinsics.Proofs.Tracking.Alike

/-!
# A call alone

For every task of a run there is a run with that task alone: the call is submitted, with all
its updates at once, and its task takes them at the same times.
-/

namespace Extrinsics.Executor

/-! ### What a task does when it is advanced -/

theorem advance_take {x : Executor} {i : Nat} {t : Task} {u : Update} {rest : List Update}
    (h : x.tasks[i]? = some t) (now : BitVec 64) (hrun : t.outcome = none)
    (hqueue : t.stream.queue = u :: rest) :
  ∃ c, (x.perform (.advance now i)).tasks[i]? = some ((t.take now u rest).closeIf c)
    ∧ x.part i (.advance now i) = ⟨[], [(now, u)], (t.tracker.receive now u).1⟩
  := by
  have hstep := Task.step_of_upcoming hrun hqueue now
  have hup : t.upcoming = some u := by
    simp [Task.upcoming, Task.isFinished, hrun, hqueue]
  obtain ⟨feeds, queue, tasks, hx, htasks⟩ := step_eq_some h hstep
  obtain ⟨c, hc⟩ := htasks i
  use c
  rw [part, perform, hx, if_pos rfl, h, Option.bind_some, hup, Option.getD_some, hc, if_pos rfl,
    List.drop_left]
  use rfl
  rfl

theorem advance_abandon {x : Executor} {i : Nat} {t : Task}
    (h : x.tasks[i]? = some t) (now : BitVec 64) (hrun : t.outcome = none) (hqueue : t.stream.queue = [])
    (hacc : t.stream.accepts = false) :
  ∃ c, (x.perform (.advance now i)).tasks[i]? = some ((t.stop t.tracker.abandon).closeIf c)
    ∧ x.part i (.advance now i) = .empty
  := by
  have hstep : t.step now = some ([], t.stop t.tracker.abandon) := by
    simp [Task.step, Task.isFinished, hrun, Subscription.next, hqueue, hacc]
  have hup : t.upcoming = none := by
    simp [Task.upcoming, Task.isFinished, hrun, hqueue]
  obtain ⟨feeds, queue, tasks, hx, htasks⟩ := step_eq_some h hstep
  obtain ⟨c, hc⟩ := htasks i
  use c
  rw [part, perform, hx, if_pos rfl, h, Option.bind_some, hup, Option.getD_some, hc, if_pos rfl,
    List.drop_left]
  use rfl
  rfl

theorem advance_isFinished {x : Executor} {i : Nat} {t : Task}
    (h : x.tasks[i]? = some t) (now : BitVec 64) (hfin : t.isFinished) :
  x.perform (.advance now i) = x ∧ x.part i (.advance now i) = .empty
  := by
  have hup : t.upcoming = none := by
    rw [Task.upcoming, if_pos hfin]
  have hstep : x.step now i = none :=
    (step_eq_none_iff h now).2 ((t.step_eq_none_iff now).2 (.inl hfin))
  have hx : x.perform (.advance now i) = x := by
    rw [perform, hstep]
    rfl
  use hx
  rw [part, hx, if_pos rfl, h, Option.bind_some, hup, List.drop_length]
  rfl

/-- A task that is advanced as often as there are updates takes them one by one. -/
theorem advance_takes {client : Client} {bs : List Action} {i : Nat} {t : Task}
    {es : List Taken} {rest : List Update} (h : (run client bs).tasks[i]? = some t)
    (hrun : t.outcome = none) (hqueue : t.stream.queue = es.map Prod.snd ++ rest)
    (hearly : (t.tracker.follow es.dropLast).2.2 = none) :
  ∃ t', (run client (bs ++ es.map fun e => .advance e.1 i)).tasks[i]? = some t'
    ∧ t'.outcome = (t.tracker.follow es).2.2
    ∧ (t'.outcome = none → t'.stream.queue = rest)
    ∧ (t.stream.hasSender = false → t'.stream.hasSender = false)
    ∧ (history client (bs ++ es.map fun e => .advance e.1 i) i).received
      = (history client bs i).received
    ∧ (history client (bs ++ es.map fun e => .advance e.1 i) i).taken
      = (history client bs i).taken ++ es
  := by
  induction es generalizing bs t with
  | nil =>
    rw [List.map_nil, List.append_nil, List.append_nil]
    use t, h, hrun
    use fun _ => hqueue, id
  | cons e es ih =>
    rw [List.map_cons, List.cons_append] at hqueue
    obtain ⟨c, hc, hpart⟩ := advance_take h e.1 hrun hqueue
    rw [← run_concat] at hc
    have hhistory := history_concat client bs (.advance e.1 i) i
    rw [hpart] at hhistory
    have happend : bs ++ (e :: es).map (fun e => .advance e.1 i)
        = bs ++ [.advance e.1 i] ++ es.map fun e => .advance e.1 i := by
      simp
    rw [happend]
    cases hout : (t.tracker.receive e.1 e.2).2.2 with
    | some o =>
      have hes : es = [] := by
        by_contra hne
        rw [List.dropLast_cons_of_ne_nil hne, Tracker.follow_cons_some hout, hout] at hearly
        cases hearly
      subst hes
      rw [Task.take_of_some hout] at hc
      rw [List.map_nil, List.append_nil, Tracker.follow_cons_some hout, hhistory]
      refine ⟨_, hc, ?_, ?_, ?_, ?_, ?_⟩
      · rw [Task.outcome_closeIf, hout]
        rfl
      · rw [Task.outcome_closeIf]
        rintro ⟨⟩
      · intro hsender
        apply Task.hasSender_closeIf
        rw [Task.hasSender_stop]
        apply hsender
      · apply List.append_nil
      · rfl
    | none =>
      rw [Task.take_of_none hout] at hc
      have hearly' : ((t.tracker.receive e.1 e.2).2.1.follow es.dropLast).2.2 = none := by
        cases es with
        | nil => rfl
        | cons d es =>
          rwa [List.dropLast_cons_of_ne_nil (List.cons_ne_nil d es),
            Tracker.follow_cons_none hout] at hearly
      obtain ⟨t', ht', houtcome, hrest, hsender, hreceived, htaken⟩ :=
        ih hc (by rw [Task.outcome_closeIf, hrun]) (by rw [Task.queue_closeIf])
          (by rwa [Task.tracker_closeIf])
      rw [hhistory] at hreceived htaken
      refine ⟨t', ht', ?_, hrest, ?_, ?_, ?_⟩
      · rw [houtcome, Task.tracker_closeIf, Tracker.follow_cons_none hout]
      · intro hopen
        apply hsender
        apply Task.hasSender_closeIf
        apply hopen
      · rw [hreceived]
        apply List.append_nil
      · rw [htaken]
        apply List.append_assoc

/-! ### The run of a task alone -/

/-- The submission of the same call when no other call is known and the given updates are sent
at once. -/
def single (s : Submission) (us : List Update) : Submission :=
  { s with feed := 0, prepared := { s.prepared with script := us } }

/-- The actions that open the task of a submission alone. -/
def first (s : Submission) (us : List Update) : List Action :=
  [.prepare (single s us).prepared, .submit 0 s.mode s.callbacks (some s.client)]

/-- A run in which a call is submitted, with its updates, and its task takes some of them. If
the task is to stop, its stream is closed behind the updates. -/
def alone (s : Submission) (us : List Update) (es : List Taken) (stops : Bool) : List Action :=
  first s us
    ++ (if stops then [.close 0] else [])
    ++ es.map (fun e => .advance e.1 0)
    ++ if stops then [.advance 0 0] else []

/-- What is not a submission opens no task. -/
theorem performAll_eq_none {x : Executor} {j : Nat} (h : x.tasks[j]? = none) {as : List Action}
    (has : ∀ a ∈ as, ∀ feed mode callbacks through, a ≠ .submit feed mode callbacks through) :
  (x.performAll as).tasks[j]? = none
  := by
  induction as generalizing x with
  | nil => apply h
  | cons a as ih =>
    rcases opens_perform h a with ⟨hnone, -⟩ | ⟨s, hgrants, -⟩
    · apply ih hnone
      intro b hb
      apply has b (List.mem_cons_of_mem a hb)
    · obtain ⟨through, hsubmit, -⟩ := hgrants.action
      exact (has a List.mem_cons_self _ _ _ through hsubmit).elim

variable (client : Client) {s : Submission} (hgrant : s.mode.grant s.prepared = .ok ())

include hgrant

/-- The executor after the submission of the only call that it knows. -/
theorem submit_only (us : List Update) :
  submit ⟨client, .empty, [.ofCall (single s us).prepared], [], [], [], []⟩ 0 s.mode s.callbacks
      s.client
    = (⟨client, .empty, [⟨(single s us).prepared, some 0, 1, 0⟩], [(single s us).opening], [0],
        [], [.count (.submitted s.mode.kind)]⟩,
      .ok 0)
  := by
  have hstream := foldl_send us (s := Subscription.start) rfl
  have hgrant' : s.mode.grant (single s us).prepared = .ok () := hgrant
  rw [submit_eq]
  simp only [List.getElem?_cons_zero, Feed.ofCall, hgrant']
  rw [subscribe, show (single s us).prepared.script = us from rfl, hstream]
  rfl

/-- The first actions of the run of a task alone open the task. -/
theorem alone_opening (us : List Update) (stops : Bool) :
  let bs : List Action := first s us ++ if stops then [.close 0] else []
  (run client bs).tasks = [(single s us).opening.closeIf stops]
    ∧ history client bs 0 = ⟨us, [], []⟩
  := by
  have hsubmit := submit_only client hgrant us
  let x : Executor := ⟨client, .empty, [.ofCall (single s us).prepared], [], [], [], []⟩
  have hpart : x.part 0 (.submit 0 s.mode s.callbacks (some s.client)) = ⟨us, [], []⟩ := by
    rw [part, Option.getD_some, hsubmit]
    dsimp only
    rw [if_pos rfl, script]
    simp [x, Feed.ofCall, single]
  dsimp only
  have hfirst : run client (first s us) = (x.submit 0 s.mode s.callbacks s.client).1 := rfl
  have hhistory : history client (first s us) 0
      = x.part 0 (.submit 0 s.mode s.callbacks (some s.client)) := by
    apply History.append_empty
  cases stops with
  | false =>
    rw [if_neg Bool.false_ne_true, List.append_nil, hfirst, hhistory, hsubmit, hpart]
    exact ⟨rfl, rfl⟩
  | true =>
    rw [if_pos rfl, run_concat, history_concat, hfirst, hhistory, hsubmit, hpart]
    exact ⟨rfl, History.append_empty _⟩

/-- The run of a task alone has one task. -/
theorem alone_single (us : List Update) (es : List Taken) (stops : Bool) :
  ∃ t, (run client (alone s us es stops)).tasks = [t]
    ∧ t.tracker.fresh = s.opening.tracker
  := by
  obtain ⟨htasks, -⟩ := alone_opening client hgrant us stops
  rw [alone, List.append_assoc, run, performAll_append, ← run]
  obtain ⟨t, ht, hfresh, -⟩ := performAll_eq_some (i := 0)
    (t := (single s us).opening.closeIf stops)
    (x := run client _) (by rw [htasks]; rfl)
    (es.map (fun e => .advance e.1 0) ++ if stops then [.advance 0 0] else [])
  use t
  constructor
  · apply eq_singleton_of_getElem? ht
    apply performAll_eq_none
    · rw [htasks]
      rfl
    · intro a ha feed mode callbacks through
      rcases List.mem_append.1 ha with ha | ha
      · obtain ⟨e, -, rfl⟩ := List.mem_map.1 ha
        rintro ⟨⟩
      · cases stops with
        | false => cases ha
        | true =>
          rw [List.mem_singleton.1 ha]
          rintro ⟨⟩
  · rw [hfresh, Task.tracker_closeIf]
    rfl

/-- In the run of a task alone, the task takes the given updates, and stops or not as it
should. -/
theorem alone_takes {es : List Taken} (rest : List Update) {stops : Bool}
    (hearly : (s.opening.tracker.follow es.dropLast).2.2 = none)
    (hlive : stops = false → (s.opening.tracker.follow es).2.2 = none)
    (hstops : stops = true → (s.opening.tracker.follow es).2.2 = none → rest = []) :
  let bs := alone s (es.map Prod.snd ++ rest) es stops
  ∃ t, (run client bs).tasks[0]? = some t ∧ t.isFinished = stops
    ∧ (history client bs 0).received = es.map Prod.snd ++ rest
    ∧ (history client bs 0).taken = es
  := by
  obtain ⟨htasks, hhistory⟩ := alone_opening client hgrant (es.map Prod.snd ++ rest) stops
  let bs : List Action :=
    first s (es.map Prod.snd ++ rest) ++ if stops then [.close 0] else []
  let t₀ := (single s (es.map Prod.snd ++ rest)).opening.closeIf stops
  have ht₀ : (run client bs).tasks[0]? = some t₀ := by
    rw [show (run client bs).tasks = [t₀] from htasks]
    rfl
  obtain ⟨t, ht, houtcome, hqueue, hsender, hreceived, htaken⟩ :=
    advance_takes ht₀ (by rw [Task.outcome_closeIf]; rfl) (by rw [Task.queue_closeIf]; rfl)
      (by rwa [Task.tracker_closeIf])
  have hend : t.outcome = (s.opening.tracker.follow es).2.2 := by
    rw [houtcome, Task.tracker_closeIf]
    rfl
  rw [show history client bs 0 = _ from hhistory] at hreceived htaken
  cases stops with
  | false =>
    use t
    rw [alone, if_neg Bool.false_ne_true, if_neg Bool.false_ne_true, List.append_nil]
    use ht
    rw [Task.isFinished, hend, hlive rfl]
    use rfl, hreceived, htaken
  | true =>
    have hlist : alone s (es.map Prod.snd ++ rest) es true
        = bs ++ es.map (fun e => .advance e.1 0) ++ [.advance 0 0] := rfl
    rw [hlist]
    dsimp only
    rw [run_concat, history_concat]
    cases hout : t.outcome with
    | some o =>
      have hfin : t.isFinished = true := by
        rw [Task.isFinished, hout]
        rfl
      obtain ⟨hx, hpart⟩ := advance_isFinished ht 0 hfin
      rw [hx, hpart, History.append_empty]
      exact ⟨t, ht, hfin, hreceived, htaken⟩
    | none =>
      have hclosed : t.stream.hasSender = false := hsender rfl
      have hacc : t.stream.accepts = false := by
        rw [Subscription.accepts, hclosed]
        rfl
      obtain ⟨c, hc, hpart⟩ :=
        advance_abandon ht 0 hout ((hqueue hout).trans (hstops rfl (hend ▸ hout))) hacc
      rw [hpart, History.append_empty]
      refine ⟨_, hc, ?_, hreceived, htaken⟩
      rw [Task.isFinished, Task.outcome_closeIf]
      rfl

omit hgrant

/-- For every task of a run there is a task alone that is like it. -/
theorem exists_alone {client : Client} {as : List Action} {i : Nat} {t : Task}
    (h : (run client as).tasks[i]? = some t) :
  ∃ bs s, (run client bs).tasks = [s] ∧ Alike t (history client as i) s (history client bs 0)
    ∧ (history client bs 0).taken = (history client as i).taken
  := by
  have ht := followed_run client as h
  obtain ⟨c, ⟨⟨bs, a, -, hgrants⟩, -⟩, hfor⟩ := origin_run client as h
  obtain ⟨-, -, -, hgrant⟩ := hgrants.exists_feed
  have htracker := hfor.fresh_eq
  obtain ⟨rest, hrest⟩ := ht.isPrefix_taken
  have hlive : t.isFinished = false →
      (c.opening.tracker.follow (history client as i).taken).2.2 = none := by
    intro hrun
    rw [← htracker]
    apply (ht.live (Option.not_isSome_iff_eq_none.1 (Bool.eq_false_iff.1 hrun))).1
  have hstops : t.isFinished = true →
      (c.opening.tracker.follow (history client as i).taken).2.2 = none → rest = [] := by
    intro hfin hfollow
    obtain ⟨o, ho⟩ := Option.isSome_iff_exists.1 hfin
    rw [← htracker] at hfollow
    obtain ⟨⟨hsome, -⟩ | ⟨-, hreceived, -⟩, -⟩ := ht.stopped o ho
    · rw [hfollow] at hsome
      cases hsome
    · rw [hreceived] at hrest
      apply List.append_right_eq_self.1 hrest
  obtain ⟨s, hs, hfin, hreceived, htaken⟩ :=
    alone_takes client hgrant rest (htracker ▸ ht.early) hlive hstops
  rw [hrest] at hs hreceived htaken
  obtain ⟨s', hsingle, hsfresh⟩ := alone_single client hgrant
    (history client as i).received (history client as i).taken t.isFinished
  rw [hsingle] at hs
  cases hs
  refine ⟨_, s, hsingle, ⟨?_, ?_, ?_, ?_, ?_⟩, htaken⟩
  · rw [htracker, hsfresh]
  · rw [hreceived]
  · rw [htaken]
  · rw [hfin]
  · intro _
    rw [htaken]

end Extrinsics.Executor
