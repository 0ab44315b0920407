import Mathlib.Algebra.BigOperators.Group.List.Basic
import Extrinsics.Proofs.Tracking.Metrics
import Extrinsics.Proofs.Tracking.Pending

/-!
# Conservation of metrics

What a run has counted can be read off its submissions and its tasks: every submission was
refused, or it has a task that has ended, was abandoned or goes on; every record was made for
such a task.
-/

namespace Extrinsics

/-- Whether a task has taken a ready update. -/
def History.wasReady (h : History) : Bool := h.taken.any fun e => e.2.isReady

namespace Executor

variable {x : Executor}

/-- How far the calls of the tasks have come. -/
def standings (x : Executor) : List Standing := x.tasks.map Task.standing

/-- The kind under which an action is counted, if it submits a call. -/
def Action.kind? : Action → Option String
  | .submit _ (.signed _ _) _ _ => some "signed"
  | .submit _ .unsigned _ _ => some "unsigned"
  | _ => none

@[simp] theorem Action.kind?_submit (feed : Nat) (mode : Mode) (callbacks : Callbacks)
    (through : Option Client) :
  (submit feed mode callbacks through).kind? = some mode.kind
  := by
  cases mode <;> rfl

/-- Whether the call that an action submits is known to the executor. -/
def expects (x : Executor) : Action → Bool
  | .submit feed _ _ _ => x.feeds[feed]?.isSome
  | _ => true

/-- Whether every call is known to the executor when it is submitted. -/
def knows : Executor → List Action → Bool
  | _, [] => true
  | x, a :: as => x.expects a && (x.perform a).knows as

theorem knows_append (x : Executor) (as bs : List Action) :
  x.knows (as ++ bs) = (x.knows as && (x.performAll as).knows bs)
  := by
  induction as generalizing x with
  | nil => rfl
  | cons a as ih =>
    rw [List.cons_append, knows, ih, knows, Bool.and_assoc]
    rfl

/-! ### Refused submissions -/

/-- A submission of a known call that is refused is counted, and so is one error with the code
of the refusal. Nothing else changes. -/
theorem submit_of_error {feed : Nat} {f : Feed} (hf : x.feeds[feed]? = some f) {mode : Mode}
    {callbacks : Callbacks} {client : Client} {e : SubmissionError}
    (h : (x.submit feed mode callbacks client).2 = .error e) :
  (x.submit feed mode callbacks client).1 = { x with
    deeds := x.deeds ++ [.count (.submitted mode.kind), .count (.error "executor" e.code)] }
  := by
  rw [submit_eq] at h ⊢
  simp only [hf] at h ⊢
  cases hgrant : mode.grant f.prepared with
  | error e' =>
    rw [hgrant] at h
    cases h
    simp [counted, act]
  | ok _ =>
    rw [hgrant] at h
    cases h

theorem Mode.authorize_of_refuses {mode : Mode} (h : mode.refuses) (hash : String) :
  ∃ reason, mode.authorize hash = .error (.signing reason)
  := by
  cases mode with
  | unsigned => cases h
  | signed sender signer =>
    rw [refuses] at h
    use (ExtensionError.rejected "Cancelled").message
    simp [authorize, Signer.sign, h]

theorem Mode.authorize_of_not_refuses {mode : Mode} (h : mode.refuses = false) (hash : String) :
  mode.authorize hash = .ok ()
  := by
  cases mode with
  | unsigned => rfl
  | signed sender signer =>
    rw [refuses] at h
    simp [authorize, Signer.sign, h]

/-- How the submission of a known call is refused: by the signer, or else by the node. -/
structure Refuses (x : Executor) (feed : Nat) (p : PreparedCall) (mode : Mode)
    (callbacks : Callbacks) (through : Option Client) : Prop where
  signing : mode.refuses →
    ∃ reason, (x.submit feed mode callbacks (through.getD x.client)).2 = .error (.signing reason)
  submission : mode.refuses = false → ∀ reason, p.rejection = some reason →
    (x.submit feed mode callbacks (through.getD x.client)).2 = .error (.submission reason)
  /-- What is done about it: two metric events are counted. -/
  done : ∀ e, (x.submit feed mode callbacks (through.getD x.client)).2 = .error e →
    ∃ kind, (Action.submit feed mode callbacks through).kind? = some kind
      ∧ x.perform (.submit feed mode callbacks through) = { x with
        deeds := x.deeds ++ [.count (.submitted kind), .count (.error "executor" e.code)] }

theorem refuses_submit {feed : Nat} {f : Feed} (hf : x.feeds[feed]? = some f) (mode : Mode)
    (callbacks : Callbacks) (through : Option Client) :
  x.Refuses feed f.prepared mode callbacks through
  where
  signing := by
    intro hrefuses
    obtain ⟨reason, hauth⟩ := Mode.authorize_of_refuses hrefuses f.prepared.hash
    use reason
    rw [submit_eq, hf]
    dsimp only
    rw [Mode.grant, hauth]
    rfl
  submission := by
    intro hrefuses reason hrejection
    have hauth := Mode.authorize_of_not_refuses hrefuses f.prepared.hash
    rw [submit_eq, hf]
    dsimp only
    rw [Mode.grant, hauth, hrejection]
    rfl
  done := fun _ h => ⟨mode.kind, Action.kind?_submit feed mode callbacks through,
    submit_of_error hf h⟩

/-! ### What an action counts -/

theorem standings_detach (x : Executor) (feed : Nat) :
  (x.detach feed).standings = x.standings
  := by
  apply List.ext_getElem?
  intro j
  obtain ⟨c, hc⟩ := x.getElem?_detach feed j
  rw [standings, standings, List.getElem?_map, List.getElem?_map, hc, Option.map_map]
  cases c <;> rfl

theorem standings_send (x : Executor) (feed : Nat) (u : Update) :
  (x.send feed u).standings = x.standings
  := by
  obtain ⟨queue, hx⟩ := x.send_eq feed u
  apply List.ext_getElem?
  intro j
  rw [standings, standings, List.getElem?_map, List.getElem?_map, hx]
  cases x.receiver? feed with
  | none => rfl
  | some i =>
    rw [getElem?_modify_deliver]
    split
    · rw [Option.map_map]
      rfl
    · rfl

/-- What an action does, and how far the calls have come after it. -/
inductive Posts (x : Executor) : Action → List Deed → List Standing → Prop where
  | nothing {a : Action} : a.kind? = none → x.Posts a [] x.standings
  | unknown {feed : Nat} {mode : Mode} {callbacks : Callbacks} {through : Option Client} :
    x.feeds[feed]? = none → x.Posts (.submit feed mode callbacks through) [] x.standings
  | refused {feed : Nat} {mode : Mode} {callbacks : Callbacks} {through : Option Client}
    (e : SubmissionError) :
    x.Posts (.submit feed mode callbacks through)
      [.count (.submitted mode.kind), .count (.error "executor" e.code)] x.standings
  | granted {feed : Nat} {mode : Mode} {callbacks : Callbacks} {through : Option Client} :
    x.Posts (.submit feed mode callbacks through) [.count (.submitted mode.kind)]
      (x.standings ++ [.fresh])
  | advanced {now : BitVec 64} {i : Nat} {t t' : Task} {ds : List Deed} :
    x.tasks[i]? = some t → t.step now = some (ds, t') →
    x.Posts (.advance now i) ds (x.standings.set i t'.standing)

theorem posts_perform (x : Executor) (a : Action) :
  ∃ ds, (x.perform a).deeds = x.deeds ++ ds ∧ x.Posts a ds (x.perform a).standings
  := by
  cases a with
  | prepare p => exact ⟨[], (List.append_nil _).symm, .nothing rfl⟩
  | arrange queue aside => exact ⟨[], (List.append_nil _).symm, .nothing rfl⟩
  | close feed =>
    obtain ⟨queue, hx⟩ := x.detach_eq feed
    use []
    rw [perform, standings_detach]
    constructor
    · rw [hx, List.append_nil]
    · apply Posts.nothing rfl
  | send feed u =>
    obtain ⟨queue, hx⟩ := x.send_eq feed u
    use []
    rw [perform, standings_send]
    constructor
    · rw [hx, List.append_nil]
    · apply Posts.nothing rfl
  | submit feed mode callbacks through =>
    rw [perform]
    cases hf : x.feeds[feed]? with
    | none =>
      use []
      rw [submit_eq, hf, List.append_nil]
      use rfl
      apply Posts.unknown hf
    | some f =>
      cases hsubmit : (x.submit feed mode callbacks (through.getD x.client)).2 with
      | error e =>
        rw [submit_of_error hf hsubmit]
        use [.count (.submitted mode.kind), .count (.error "executor" e.code)], rfl
        apply Posts.refused
      | ok i =>
        obtain ⟨-, f', -, -, feeds, queue, hx⟩ := submit_ok hsubmit
        use [.count (.submitted mode.kind)]
        have hjoined : (x.submit feed mode callbacks (through.getD x.client)).1.standings
            = x.standings ++ [.fresh] := by
          rw [hx, standings, List.map_append, ← x.standings_detach feed]
          rfl
        rw [hjoined]
        constructor
        · rw [hx]
        · apply Posts.granted
  | advance now i =>
    rcases x.perform_advance now i with
      ⟨hx, -⟩ | ⟨t, ds, t', ht, hstep, feeds, queue, tasks, hx, htasks⟩
    · use []
      rw [hx, List.append_nil]
      use rfl
      apply Posts.nothing rfl
    · use ds
      have hset : (x.perform (.advance now i)).standings = x.standings.set i t'.standing := by
        apply List.ext_getElem?
        intro j
        obtain ⟨c, hc⟩ := htasks j
        obtain ⟨hi, -⟩ := List.getElem?_eq_some_iff.1 ht
        rw [hx, standings, standings, List.getElem?_map, hc, Option.map_map, List.getElem?_set,
          List.length_map, List.getElem?_map]
        have hclose : Task.standing ∘ Task.closeIf c = Task.standing := by
          cases c <;> rfl
        rw [hclose]
        by_cases hij : i = j
        · rw [if_pos hij, if_pos hij, if_pos (hij ▸ hi)]
          rfl
        · rw [if_neg hij, if_neg hij]
      rw [hset]
      constructor
      · rw [hx]
      · apply Posts.advanced ht hstep

/-! ### The balance of a run -/

/-- A call is submitted with a signature or without one. -/
theorem countP_kinds (as : List Action) :
  as.countP (fun a => a.kind? = some "signed") + as.countP (fun a => a.kind? = some "unsigned")
    = as.countP fun a => a.kind?.isSome
  := by
  simp only [countP_eq_sum, ← List.sum_map_add]
  congr 2
  ext a
  cases a with
  | submit feed mode callbacks through => cases mode <;> rfl
  | _ => rfl

/-- The calls are finalized, have failed, were abandoned, or are still tracked. -/
theorem length_standings (vs : List Standing) :
  vs.length
    = vs.countP (fun v => v.counts (.terminal "isFinalized"))
      + vs.countP (fun v => v.counts (.terminal "Error"))
      + vs.countP (fun v => v.outcome.any Outcome.isAbandoned)
      + vs.countP fun v => !v.outcome.isSome
  := by
  rw [← List.countP_true]
  simp only [countP_eq_sum, ← List.sum_map_add]
  congr 2
  ext v
  apply v.one_eq

/-- The calls with a record have a duration, or were abandoned, or are still tracked. -/
theorem countP_hasRecord {vs : List Standing}
    (h : ∀ v ∈ vs, ∀ hash, v.outcome = some (.abandoned hash) → hash.isSome = v.hasRecord) :
  vs.countP (fun v => v.counts .recordCreated)
    = vs.countP (fun v => v.counts (.lifecycle ()))
      + vs.countP (fun v => v.outcome.any Outcome.leavesRecord)
      + vs.countP fun v => !v.outcome.isSome && v.hasRecord
  := by
  simp only [countP_eq_sum, ← List.sum_map_add]
  congr 1
  apply List.map_congr_left
  intro v hv
  apply Standing.toNat_hasRecord (h v hv)

/-- The calls that came to their ends have durations if they have records. -/
theorem countP_ended (vs : List Standing) :
  vs.countP (fun v => v.counts (.terminal "isFinalized"))
      + vs.countP (fun v => v.counts (.terminal "Error"))
    = vs.countP (fun v => v.counts (.lifecycle ()))
      + vs.countP fun v => v.status?.isSome && !v.hasRecord
  := by
  simp only [countP_eq_sum, ← List.sum_map_add]
  congr 2
  ext v
  apply v.toNat_ended

/-- What was done is counted as far as the calls have come. -/
structure Balanced (as : List Action) (ds : List Deed) (vs : List Standing) : Prop where
  submitted : ∀ kind, (metrics ds).count (.submitted kind) = as.countP fun a => a.kind? = some kind
  errors : (metrics ds).countP Metric.isExecutorError + vs.length
    = as.countP fun a => a.kind?.isSome
  counted : ∀ m, m.isTracking → (metrics ds).count m = vs.countP fun v => v.counts m
  added : (writes ds).countP Write.adds = vs.countP Standing.hasRecord
  abandoned : ∀ v ∈ vs, ∀ hash, v.outcome = some (.abandoned hash) → hash.isSome = v.hasRecord

namespace Balanced

variable {as : List Action} {ds : List Deed} {vs : List Standing}

theorem nothing (h : Balanced as ds vs) {a : Action} (ha : a.kind? = none) :
  Balanced (as ++ [a]) ds vs
  where
  submitted := fun kind => by
    rw [h.submitted, List.countP_append]
    simp [ha]
  errors := by
    rw [h.errors, List.countP_append]
    simp [ha]
  counted := h.counted
  added := h.added
  abandoned := h.abandoned

theorem refused (h : Balanced as ds vs) {feed : Nat} {mode : Mode} {callbacks : Callbacks}
    {through : Option Client} (e : SubmissionError) :
  Balanced (as ++ [.submit feed mode callbacks through])
    (ds ++ [.count (.submitted mode.kind), .count (.error "executor" e.code)]) vs
  where
  submitted := fun kind => by
    rw [metrics_append, List.count_append, List.countP_append, h.submitted]
    simp [metrics_cons, List.count_cons]
  errors := by
    rw [metrics_append, List.countP_append, List.countP_append, ← h.errors]
    simp [metrics_cons, Metric.isExecutorError]
    omega
  counted := fun m hm => by
    rw [metrics_append, List.count_append, h.counted m hm]
    cases m <;> simp [metrics_cons, Metric.isTracking] at hm ⊢
  added := by
    rw [writes_append, List.countP_append, h.added]
    simp [writes_cons]
  abandoned := h.abandoned

theorem granted (h : Balanced as ds vs) {feed : Nat} {mode : Mode} {callbacks : Callbacks}
    {through : Option Client} :
  Balanced (as ++ [.submit feed mode callbacks through])
    (ds ++ [.count (.submitted mode.kind)]) (vs ++ [.fresh])
  where
  submitted := fun kind => by
    rw [metrics_append, List.count_append, List.countP_append, h.submitted]
    simp [metrics_cons, List.count_cons]
  errors := by
    rw [metrics_append, List.countP_append, List.countP_append, ← h.errors]
    simp [metrics_cons, Metric.isExecutorError]
    omega
  counted := fun m hm => by
    rw [metrics_append, List.count_append, List.countP_append, h.counted m hm]
    cases m <;>
      simp [metrics_cons, Metric.isTracking, Standing.counts, Standing.fresh,
        Standing.status?] at hm ⊢
  added := by
    rw [writes_append, List.countP_append, List.countP_append, h.added]
    simp [writes_cons, Standing.fresh]
  abandoned := by
    intro v hv hash hout
    rcases List.mem_append.1 hv with hv | hv
    · apply h.abandoned v hv hash hout
    · rw [List.mem_singleton.1 hv] at hout
      cases hout

/-- When a task makes a step, the standing of its call changes as far as is counted. -/
theorem advanced (h : Balanced as ds vs) {a : Action} (ha : a.kind? = none) {i : Nat}
    {v v' : Standing} {ds' : List Deed} (hv : vs[i]? = some v) (hstep : Task.Accounts v ds' v') :
  Balanced (as ++ [a]) (ds ++ ds') (vs.set i v')
  where
  submitted := fun kind => by
    rw [metrics_append, List.count_append, hstep.submitted, (h.nothing ha).submitted]
    rfl
  errors := by
    rw [metrics_append, List.countP_append, hstep.errors, List.length_set, (h.nothing ha).errors.symm]
    rfl
  counted := fun m hm => by
    have hset := countP_set_add (fun v => v.counts m) hv v'
    have hcounted := hstep.counted m (by rintro code rfl; cases hm)
    rw [metrics_append, List.count_append, h.counted m hm]
    omega
  added := by
    have hset := countP_set_add Standing.hasRecord hv v'
    have hadded := hstep.added
    rw [writes_append, List.countP_append, h.added]
    omega
  abandoned := by
    intro w hw hash hout
    rcases List.mem_or_eq_of_mem_set hw with hw | rfl
    · apply h.abandoned w hw hash hout
    · apply hstep.abandoned hash hout

end Balanced

section

variable {client : Client} {as : List Action}
  (hc : ∀ t ∈ (run client as).tasks, t.tracker.callbacks.AllReturn)
  (hknows : (start client).knows as)

include hc hknows

/-- What a run has done is counted as far as the calls have come. -/
theorem balanced_run :
  Balanced as (run client as).deeds (run client as).standings
  := by
  induction as using List.reverseRecOn with
  | nil =>
    refine ⟨fun _ => rfl, rfl, fun _ _ => rfl, rfl, ?_⟩
    rintro v ⟨⟩
  | append_singleton as a ih =>
    rw [knows_append, Bool.and_eq_true_iff, knows, Bool.and_eq_true_iff] at hknows
    obtain ⟨hbefore, hknown, -⟩ := hknows
    have hc' := allReturn_of_isPrefix (List.prefix_append as [a]) hc
    have hbalanced := ih hc' hbefore
    obtain ⟨ds, hdeeds, hposts⟩ := (run client as).posts_perform a
    rw [run_concat, hdeeds]
    generalize ((run client as).perform a).standings = vs at hposts
    cases hposts with
    | nothing ha =>
      rw [List.append_nil]
      apply hbalanced.nothing ha
    | unknown hf =>
      rw [expects, ← run, hf] at hknown
      cases hknown
    | refused e => apply hbalanced.refused
    | granted => apply hbalanced.granted
    | @advanced now i t t' ds ht hstep =>
      have hv : (run client as).standings[i]? = some t.standing := by
        rw [standings, List.getElem?_map, ht]
        rfl
      apply hbalanced.advanced rfl hv
      apply Task.accounts_step (hc' t (List.mem_of_getElem? ht)) hstep

end

/-! ### The tasks of a run and their histories -/

/-- The tasks of a run, each with its history. -/
def chronicle (client : Client) (as : List Action) : List (Task × History) :=
  (run client as).tasks.mapIdx fun i t => (t, history client as i)

variable {client : Client} {as : List Action}

theorem tasks_chronicle (client : Client) (as : List Action) :
  (chronicle client as).map Prod.fst = (run client as).tasks
  := by
  apply List.ext_getElem?
  intro j
  rw [chronicle, List.getElem?_map, List.getElem?_mapIdx, Option.map_map]
  apply congrFun Option.map_id

theorem standings_chronicle (client : Client) (as : List Action) :
  (run client as).standings = (chronicle client as).map fun c => c.1.standing
  := by
  rw [standings, ← tasks_chronicle, List.map_map]
  rfl

theorem followed_of_mem {t : Task} {h : History} (hmem : (t, h) ∈ chronicle client as) :
  t ∈ (run client as).tasks ∧ t.Followed h
  := by
  obtain ⟨i, hi, ⟨⟩⟩ := List.mem_mapIdx.1 hmem
  use List.getElem_mem hi
  apply followed_run client as (List.getElem?_eq_getElem hi)

/-- What is counted of the submissions, the records and the ends of the calls of a run adds
up. -/
structure Conserved (client : Client) (as : List Action) : Prop where
  submitted : ∀ kind, (metrics (run client as).deeds).count (.submitted kind)
    = as.countP fun a => a.kind? = some kind
  /-- Every submission was refused, or its call was finalized, has failed, was abandoned or is
  still tracked. -/
  calls :
    (metrics (run client as).deeds).count (.submitted "signed")
        + (metrics (run client as).deeds).count (.submitted "unsigned")
      = (metrics (run client as).deeds).countP Metric.isExecutorError
        + (metrics (run client as).deeds).count (.terminal "isFinalized")
        + (metrics (run client as).deeds).count (.terminal "Error")
        + (run client as).tasks.countP (fun t => t.outcome.any Outcome.isAbandoned)
        + (run client as).tasks.countP fun t => !t.isFinished
  added : (metrics (run client as).deeds).count .recordCreated
    = (writes (run client as).deeds).countP Write.adds
  /-- Every record is that of a call whose duration was reported, or that was abandoned, or that
  is still tracked. -/
  records :
    (metrics (run client as).deeds).count .recordCreated
      = (metrics (run client as).deeds).count (.lifecycle ())
        + (run client as).tasks.countP (fun t => t.outcome.any Outcome.leavesRecord)
        + (chronicle client as).countP fun c => !c.1.isFinished && c.2.wasReady
  /-- The ends of calls without a reported duration are those of calls that were not ready. -/
  ends :
    (metrics (run client as).deeds).count (.terminal "isFinalized")
        + (metrics (run client as).deeds).count (.terminal "Error")
      = (metrics (run client as).deeds).count (.lifecycle ())
        + (chronicle client as).countP fun c => c.1.standing.status?.isSome && !c.2.wasReady

section

variable (hc : ∀ t ∈ (run client as).tasks, t.tracker.callbacks.AllReturn)

include hc

/-- There is a record exactly when the task has taken a ready update. -/
theorem hasRecord_of_mem {t : Task} {h : History} (hmem : (t, h) ∈ chronicle client as) :
  t.standing.hasRecord = h.wasReady
  := by
  obtain ⟨ht, hfollowed⟩ := followed_of_mem hmem
  have htracked := congrArg Tracker.tracked hfollowed.tracker
  rw [Tracker.tracked_follow (t := t.tracker.fresh) (hc t ht) hfollowed.course] at htracked
  rw [Task.standing, htracked, Tracker.fresh, Option.none_or, Option.isSome_map,
    Bool.eq_iff_iff, List.find?_isSome, History.wasReady, List.any_eq_true]

/-- Tasks are counted by their outcomes and by whether they have taken a ready update. -/
theorem countP_standings (p : Option Outcome → Bool → Bool) :
  (run client as).standings.countP (fun v => p v.outcome v.hasRecord)
    = (chronicle client as).countP fun c => p c.1.outcome c.2.wasReady
  := by
  rw [standings_chronicle, List.countP_map]
  apply List.countP_congr
  intro c hmem
  rw [← hasRecord_of_mem hc hmem]
  rfl

variable (hknows : (start client).knows as)

include hknows

theorem conserved_metrics :
  Conserved client as
  := by
  have h := balanced_run hc hknows
  have htasks (p : Option Outcome → Bool) :
      (run client as).standings.countP (fun v => p v.outcome)
        = (run client as).tasks.countP fun t => p t.outcome := List.countP_map
  constructor
  · apply h.submitted
  · rw [h.submitted, h.submitted, countP_kinds, ← h.errors, h.counted _ rfl, h.counted _ rfl,
      length_standings, htasks (·.any Outcome.isAbandoned), htasks (!·.isSome)]
    simp only [Nat.add_assoc]
    rfl
  · rw [h.counted _ rfl, h.added]
    rfl
  · have hready := countP_standings hc fun o ready => !o.isSome && ready
    rw [h.counted _ rfl, h.counted _ rfl, ← htasks (·.any Outcome.leavesRecord),
      countP_hasRecord h.abandoned, hready]
    rfl
  · have hready := countP_standings hc fun o ready => (o.bind Outcome.status?).isSome && !ready
    rw [h.counted _ rfl, h.counted _ rfl, h.counted _ rfl]
    apply (countP_ended _).trans
    apply congrArg _ hready

/-- The metrics of a run are conserved, if no callback breaks off and the calls are known when
they are submitted. A refused submission counts itself and one error with the code of the
refusal, and does nothing else. -/
theorem conserved_run :
  Conserved client as
    ∧ ∀ feed f mode callbacks through, (run client as).feeds[feed]? = some f →
      (run client as).Refuses feed f.prepared mode callbacks through
  := by
  use conserved_metrics hc hknows
  intro feed f mode callbacks through hf
  apply refuses_submit hf

end

end Executor

namespace Samples

/-- A call that the node rejects. -/
def rejectedCall : PreparedCall := ⟨claim, "0x123", some "Pool is full", []⟩

/-- A transfer is refused by its signer at first, and then it is finalized. A claim is ready.
Another call is rejected. -/
def busyRun : List Executor.Action :=
  [.prepare preparedTransfer, .prepare preparedClaim, .prepare rejectedCall,
    .submit 0 (.signed "5Alice" ⟨true, 0⟩) ⟨none, none, none⟩,
    .submit 0 (.signed "5Alice" ⟨false, 0⟩) ⟨some .returns, some .returns, none⟩,
    .submit 1 .unsigned ⟨none, none, none⟩, .submit 2 .unsigned ⟨none, none, none⟩,
    .send 1 (.ofStatus "0xDEF" .ready), .send 0 (.ofStatus "0xABC" .ready),
    .advance 1 0, .advance 1 1, .send 0 (.ofStatus "0xABC" (.finalized "0xB1")), .advance 2 0]

end Samples

namespace Executor

theorem conserved_busyRun :
  Conserved Samples.client Samples.busyRun
    ∧ metrics (run Samples.client Samples.busyRun).deeds
      = [.submitted "signed", .error "executor" "EXECUTOR_SIGNING_FAILED", .submitted "signed",
        .submitted "unsigned", .submitted "unsigned",
        .error "executor" "EXECUTOR_SUBMISSION_FAILED", .recordCreated, .recordCreated,
        .terminal "isFinalized", .lifecycle ()]
  := by
  have hc : ∀ t ∈ (run Samples.client Samples.busyRun).tasks,
      t.tracker.callbacks.AllReturn := by
    decide
  have hknows : (start Samples.client).knows Samples.busyRun := rfl
  obtain ⟨hconserved, -⟩ := conserved_run hc hknows
  use hconserved
  rfl

end Executor

end Extrinsics
