import Extrinsics.Proofs.Tracking.Interruption
import Extrinsics.Proofs.Tracking.Orderly
import Extrinsics.Proofs.Tracking.Tasks

/-!
# The metrics of tracking

While a call is tracked, the making of its record is counted, and its end: the terminal status,
and the duration if there is a record. So what a step of a task counts can be read off how far
the task has come before and after the step.
-/

namespace Extrinsics

/-- The metric event of a deed, if the deed is to count it. -/
def Deed.metric? : Deed → Option (Metric Unit)
  | .count m => some m
  | _ => none

@[simp] theorem Deed.metric?_count (m : Metric Unit) :
  (Deed.count m).metric? = some m
  := rfl

/-- The metric events among deeds, in their order. -/
def metrics (ds : List Deed) : List (Metric Unit) := ds.filterMap Deed.metric?

@[simp] theorem metrics_nil :
  metrics [] = []
  := rfl

theorem metrics_cons (d : Deed) (ds : List Deed) :
  metrics (d :: ds) = d.metric?.toList ++ metrics ds
  := by
  rw [metrics, List.filterMap_cons]
  cases d.metric? <;> rfl

@[simp] theorem metrics_append (ds ds' : List Deed) :
  metrics (ds ++ ds') = metrics ds ++ metrics ds'
  := List.filterMap_append

theorem Metric.count_singleton (m m' : Metric Unit) :
  [m'].count m = (decide (m = m')).toNat
  := by
  by_cases h : m = m'
  · simp [h]
  · rw [List.count_singleton, if_neg (by simpa using Ne.symm h), decide_eq_false h]
    rfl

theorem Metric.count_if (b : Bool) (m m' : Metric Unit) :
  (if b then [m'] else []).count m = (b && m = m').toNat
  := by
  cases b with
  | false => rfl
  | true => apply Metric.count_singleton

/-- Whether a metric event is an error of the executor. -/
def Metric.isExecutorError : Metric Unit → Bool
  | .error kind _ => kind = "executor"
  | _ => false

/-- Whether a metric event is counted while a call is tracked. -/
def Metric.isTracking : Metric Unit → Bool
  | .recordCreated => true
  | .terminal _ => true
  | .lifecycle _ => true
  | _ => false

/-- The terminal status that an outcome tells, if it tells one. -/
def Outcome.status? : Outcome → Option Status
  | .finalized _ _ => some .finalized
  | .failed _ _ => some .error
  | .abandoned _ => none

/-- Whether an outcome tells that the call was abandoned. -/
def Outcome.isAbandoned : Outcome → Bool
  | .abandoned _ => true
  | _ => false

/-- Whether an outcome tells that the call was abandoned after its record was made. -/
def Outcome.leavesRecord : Outcome → Bool
  | .abandoned hash => hash.isSome
  | _ => false

/-- How far the tracking of a call has come: its outcome, if it has stopped, and whether a
record was made. -/
structure Standing where
  outcome : Option Outcome
  hasRecord : Bool
deriving DecidableEq

namespace Standing

/-- The standing of a call whose tracking has just begun. -/
def fresh : Standing := ⟨none, false⟩

/-- The terminal status of the call, if it came to its end. -/
def status? (v : Standing) : Option Status := v.outcome.bind Outcome.status?

/-- Whether a metric event has been counted for the call. -/
def counts (v : Standing) : Metric Unit → Bool
  | .recordCreated => v.hasRecord
  | .terminal name => v.status?.any fun s => s.name = name
  | .lifecycle _ => v.hasRecord && v.status?.isSome
  | _ => false

/-- A call is finalized, has failed, was abandoned, or is still tracked. -/
theorem one_eq (v : Standing) :
  1 = (v.counts (.terminal "isFinalized")).toNat + (v.counts (.terminal "Error")).toNat
    + (v.outcome.any Outcome.isAbandoned).toNat + (!v.outcome.isSome).toNat
  := by
  rcases v with ⟨_ | ⟨hash, block⟩ | ⟨hash, message⟩ | hash, record⟩ <;> rfl

/-- A call with a record has a duration, or it was abandoned, or it is still tracked. -/
theorem toNat_hasRecord {v : Standing}
    (h : ∀ hash, v.outcome = some (.abandoned hash) → hash.isSome = v.hasRecord) :
  v.hasRecord.toNat
    = (v.counts (.lifecycle ())).toNat + (v.outcome.any Outcome.leavesRecord).toNat
      + (!v.outcome.isSome && v.hasRecord).toNat
  := by
  rcases v with ⟨_ | ⟨hash, block⟩ | ⟨hash, message⟩ | hash, record⟩
  · simp [counts, status?]
  · cases record <;> rfl
  · cases record <;> rfl
  · obtain rfl : hash.isSome = record := h hash rfl
    cases hash <;> rfl

/-- A call that came to its end has a duration if it has a record. -/
theorem toNat_ended (v : Standing) :
  (v.counts (.terminal "isFinalized")).toNat + (v.counts (.terminal "Error")).toNat
    = (v.counts (.lifecycle ())).toNat + (v.status?.isSome && !v.hasRecord).toNat
  := by
  rcases v with ⟨_ | ⟨hash, block⟩ | ⟨hash, message⟩ | hash, record⟩ <;> cases record <;> rfl

end Standing

/-- The standing of the call that a task tracks. -/
def Task.standing (t : Task) : Standing := ⟨t.outcome, t.tracker.tracked.isSome⟩

/-- The terminal status that the last update of a call brings. -/
def Update.endStatus (u : Update) : Status :=
  if u.dispatchError.isSome then .error else .finalized

namespace Tracker

/-- What is counted at the end of a call: what is unknown about its error, its terminal status,
and the duration since the making of the record. -/
def closing (t : Tracker) (u : Update) : List (Metric Unit) :=
  u.dispatchError.toList.flatMap t.registry.describeMetrics
    ++ .terminal u.endStatus.name :: if t.tracked.isSome then [.lifecycle ()] else []

theorem metrics_enter {t : Tracker} {u : Update} (h : ¬ t.breaksAt u) (now : BitVec 64) :
  metrics (t.enter now u.key u).1 = if t.enters u then [.recordCreated] else []
  := by
  rw [enter, show (u.isReady && t.tracked.isNone) = t.enters u from rfl]
  rw [breaksAt] at h
  cases henters : t.enters u with
  | false => rfl
  | true =>
    rcases hready : t.callbacks.ready with _ | _ | _
    · rfl
    · rfl
    · exact (h ⟨henters, hready⟩).elim

theorem metrics_noteBlock (k : String) (u : Update) :
  metrics (noteBlock k u) = []
  := by
  rw [noteBlock]
  cases u.block? <;> rfl

theorem metrics_finish {t : Tracker} {callback : Option Callback} (hc : callback ≠ some .breaksOff)
    (first : List Deed) {told : Deed} (htold : told.metric? = none) (status : Status)
    (outcome : Outcome) :
  metrics (t.finish first callback told status outcome).1
    = metrics first ++ .terminal status.name :: if t.tracked.isSome then [.lifecycle ()] else []
  := by
  have hlifecycle : metrics t.lifecycle = if t.tracked.isSome then [.lifecycle ()] else [] := by
    rw [lifecycle_eq]
    split <;> rfl
  rcases callback with _ | _ | _
  · simp [finish, metrics_cons, hlifecycle]
  · simp [finish, metrics_cons, htold, hlifecycle]
  · exact (hc rfl).elim

/-- What is counted at the last update. -/
theorem metrics_conclude {t : Tracker} (hc : t.callbacks.AllReturn) {u : Update} (h : u.isLast) :
  ∃ ending, t.conclude u.key u = some ending ∧ metrics ending.1 = t.closing u
  := by
  rw [conclude, closing, Update.endStatus]
  cases he : u.dispatchError with
  | some e =>
    refine ⟨_, rfl, ?_⟩
    rw [metrics_finish hc.2.2 _ rfl, metrics_append]
    have hdescribe : metrics ((t.registry.describeMetrics e).map Deed.count)
        = t.registry.describeMetrics e := by
      rw [metrics, List.filterMap_map]
      apply List.filterMap_some
    rw [hdescribe]
    simp [metrics_cons, Deed.metric?]
  | none =>
    cases hf : u.finalBlock? with
    | none => simp [Update.isLast, Update.isFinalized, he, hf] at h
    | some b =>
      refine ⟨_, rfl, ?_⟩
      rw [metrics_finish hc.2.1 _ rfl]
      rfl

/-- What is counted at an update: the making of the record, and the end of the call. -/
theorem metrics_receive {t : Tracker} (hc : t.callbacks.AllReturn) (now : BitVec 64) (u : Update) :
  metrics (t.receive now u).1
    = (if t.enters u then [.recordCreated] else []) ++ if u.isLast then (t.after u).closing u else []
  := by
  have henter := metrics_enter (not_breaksAt hc u) now
  obtain ⟨-, hsnd⟩ := (t.enter_snd now u).resolve_left fun h => not_breaksAt hc u h.1
  rw [receive, show Hash.normalize u.hash = u.key from rfl,
    show t.enter now u.key u = (_, t.after u, false) from Prod.ext rfl hsnd]
  dsimp only
  cases hlast : u.isLast with
  | false =>
    rw [(t.after u).conclude_eq_none hlast]
    simp [henter, metrics_noteBlock]
  | true =>
    obtain ⟨ending, hconclude, hclosing⟩ :=
      metrics_conclude (t := t.after u) (by rwa [callbacks_after]) hlast
    rw [hconclude]
    simp [henter, metrics_noteBlock, hclosing]

/-- The last update decides the terminal status. -/
theorem status?_verdict (t : Tracker) (u : Update) :
  (t.verdict u).bind Outcome.status? = if u.isLast then some u.endStatus else none
  := by
  rw [verdict, Update.isLast, Update.endStatus]
  cases u.dispatchError with
  | some e => rfl
  | none =>
    rw [Update.isFinalized]
    cases u.finalBlock? <;> rfl

/-- An update does not abandon the call. -/
theorem verdict_ne_abandoned (t : Tracker) (u : Update) (hash : Option String) :
  t.verdict u ≠ some (.abandoned hash)
  := by
  rw [verdict]
  cases u.dispatchError with
  | some e => rintro ⟨⟩
  | none => cases u.finalBlock? <;> rintro ⟨⟩

end Tracker

namespace Task

/-- What a step of a task does is counted as far as it changes the standing of the call. -/
structure Accounts (v : Standing) (ds : List Deed) (v' : Standing) : Prop where
  counted : ∀ m, (∀ code, m ≠ .error "registry" code) →
    (metrics ds).count m + (v.counts m).toNat = (v'.counts m).toNat
  added : (writes ds).countP Write.adds + v.hasRecord.toNat = v'.hasRecord.toNat
  /-- An abandoned call has the hash of its record. -/
  abandoned : ∀ hash, v'.outcome = some (.abandoned hash) → hash.isSome = v'.hasRecord

theorem Accounts.submitted {v v' : Standing} {ds : List Deed} (h : Accounts v ds v')
    (kind : String) :
  (metrics ds).count (.submitted kind) = 0
  := by
  simpa [Standing.counts] using h.counted (.submitted kind) (by rintro code ⟨⟩)

theorem Accounts.errors {v v' : Standing} {ds : List Deed} (h : Accounts v ds v') :
  (metrics ds).countP Metric.isExecutorError = 0
  := by
  apply List.countP_eq_zero.2
  intro m hm
  cases m with
  | error kind code =>
    intro herror
    obtain rfl := of_decide_eq_true herror
    have hcount := h.counted (.error "executor" code) (by simp)
    apply List.count_eq_zero.1 _ hm
    simpa [Standing.counts] using hcount
  | _ => apply Bool.false_ne_true

/-- A step in which a task only notes that its stream has closed counts nothing. -/
theorem accounts_abandon (tracked : Option String) :
  Accounts ⟨none, tracked.isSome⟩ [] ⟨some (.abandoned tracked), tracked.isSome⟩
  where
  counted := by
    rintro m -
    cases m <;> simp [Standing.counts, Standing.status?, Outcome.status?]
  added := Nat.zero_add _
  abandoned := by
    rintro hash ⟨⟩
    rfl

theorem countP_adds_receive {t : Tracker} (hc : t.callbacks.AllReturn) (now : BitVec 64)
    (u : Update) :
  (writes (t.receive now u).1).countP Write.adds = (t.enters u).toNat
  := by
  have hplain : (t.plain u).countP Write.adds = 0 := by
    apply List.countP_eq_zero.2
    intro w hw
    rw [Tracker.adds_of_mem_plain hw]
    apply Bool.false_ne_true
  rw [(t.writes_receive now u).2 (Tracker.not_breaksAt hc u), List.countP_append, hplain]
  cases t.enters u <;> rfl

/-- How often a metric event is counted at an update, if it is not an error of the registry. -/
theorem count_receive {t : Tracker} (hc : t.callbacks.AllReturn) (now : BitVec 64) (u : Update)
    {m : Metric Unit} (hm : ∀ code, m ≠ .error "registry" code) :
  (metrics (t.receive now u).1).count m
    = (t.enters u && m = .recordCreated).toNat
      + ((u.isLast && m = .terminal u.endStatus.name).toNat
        + (u.isLast && (t.after u).tracked.isSome && m = .lifecycle ()).toNat)
  := by
  have hregistry : (u.dispatchError.toList.flatMap (t.after u).registry.describeMetrics).count m
      = 0 := by
    apply List.count_eq_zero.2
    intro hmem
    obtain ⟨e, -, hmem⟩ := List.mem_flatMap.1 hmem
    obtain ⟨unknown, -, hm'⟩ := List.mem_map.1 hmem
    apply hm unknown.code hm'.symm
  rw [Tracker.metrics_receive hc, List.count_append, Metric.count_if]
  congr 1
  cases u.isLast with
  | false => rfl
  | true =>
    rw [if_pos rfl, Tracker.closing, List.count_append, hregistry, Nat.zero_add,
      ← List.singleton_append, List.count_append, Metric.count_singleton, Metric.count_if]
    rfl

/-- What a task does with an update is counted as far as it changes the standing of the
call. -/
theorem accounts_receive {t : Tracker} (hc : t.callbacks.AllReturn) (now : BitVec 64)
    (u : Update) :
  Accounts ⟨none, t.tracked.isSome⟩ (t.receive now u).1
    ⟨t.verdict u, (t.after u).tracked.isSome⟩
  := by
  have hrecord : (t.enters u).toNat + t.tracked.isSome.toNat = (t.after u).tracked.isSome.toNat := by
    rw [Tracker.isSome_tracked_after, Tracker.enters]
    cases u.isReady <;> cases t.tracked <;> rfl
  have hstatus := t.status?_verdict u
  constructor
  · intro m hm
    rw [count_receive hc now u hm]
    cases m with
    | recordCreated => simpa [Standing.counts] using hrecord
    | terminal name =>
      simp only [Standing.counts, Standing.status?, hstatus]
      cases u.isLast <;> simp [eq_comm]
    | lifecycle d =>
      simp only [Standing.counts, Standing.status?, hstatus]
      cases u.isLast <;> simp
    | _ => simp [Standing.counts]
  · rw [countP_adds_receive hc, hrecord]
  · intro hash hverdict
    exact (t.verdict_ne_abandoned u hash hverdict).elim

theorem standing_take {t : Task} (hc : t.tracker.callbacks.AllReturn) (hrun : t.outcome = none)
    (now : BitVec 64) (u : Update) (rest : List Update) :
  (t.take now u rest).standing = ⟨t.tracker.verdict u, (t.tracker.after u).tracked.isSome⟩
  := by
  rw [standing, tracker_take, t.tracker.tracker_receive now u (Tracker.not_breaksAt hc u),
    ← Tracker.outcome_receive hc now u]
  cases hout : (t.tracker.receive now u).2.2 with
  | none => rw [take_of_none hout, hrun]
  | some o =>
    rw [take_of_some hout]
    rfl

/-- What a task does in a step is counted as far as it changes the standing of its call. -/
theorem accounts_step {t t' : Task} (hc : t.tracker.callbacks.AllReturn) {now : BitVec 64}
    {ds : List Deed} (h : t.step now = some (ds, t')) :
  Accounts t.standing ds t'.standing
  := by
  obtain ⟨hrun, ⟨-, -, rfl, rfl⟩ | ⟨u, rest, -, rfl, rfl⟩⟩ := step_cases h
  · rw [standing, hrun]
    apply accounts_abandon
  · rw [standing_take hc hrun, standing, hrun]
    apply accounts_receive hc

end Task

end Extrinsics
