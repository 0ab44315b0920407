import Mathlib.Data.List.Basic
import Extrinsics.Proofs.Store.Replay

/-!
# Following a call

What a tracker does with one update falls into parts: the first ready update makes a record,
an inclusion is noted, and a last update, which carries a dispatch error or tells that the
block is final, ends the call. `Tracker.follow` is what a tracker does with a list of
updates. Its writes, what it tells the callbacks and its outcome are given in closed form.
-/

namespace Extrinsics

/-- The time at which an update is taken, and the update. -/
abbrev Taken := BitVec 64 × Update

namespace Update

/-- The canonical hash of the call that an update is about. -/
def key (u : Update) : String := Hash.normalize u.hash

/-- Whether an update is the last one of its call: it carries a dispatch error, or the block
is final. -/
def isLast (u : Update) : Bool := u.dispatchError.isSome || u.isFinalized

/-- The write that notes the block of an update. -/
def inclusion (u : Update) : List Write :=
  u.block?.toList.map fun b => .block u.key (Hash.normalize b)

theorem not_isLast_iff (u : Update) :
  u.isLast = false ↔ u.dispatchError = none ∧ u.finalBlock? = none
  := by
  simp [isLast, isFinalized]

end Update

/-- No callback that is set breaks off. -/
def Callbacks.AllReturn (c : Callbacks) : Prop :=
  c.ready ≠ some .breaksOff ∧ c.finalized ≠ some .breaksOff ∧ c.error ≠ some .breaksOff

instance (c : Callbacks) : Decidable c.AllReturn :=
  inferInstanceAs (Decidable (_ ∧ _ ∧ _))

namespace Tracker

/-! ### The parts of one update -/

/-- The tracker as it was before it took any update. -/
def fresh (t : Tracker) : Tracker := { t with tracked := none }

/-- The write that makes the record. -/
def addition (t : Tracker) (e : Taken) : Write := .add e.2.key (t.record e.1 e.2.key)

/-- The write that ends the call. A dispatch error goes before finalization. -/
def ending (t : Tracker) (u : Update) : List Write :=
  match u.dispatchError with
  | some e => [.error u.key (t.registry.describe e).1]
  | none => if u.isFinalized then [.status u.key .finalized] else []

/-- The writes of an update, except that of the record. -/
def plain (t : Tracker) (u : Update) : List Write := u.inclusion ++ t.ending u

/-- What the callback for ready calls is told, if it is set. -/
def welcome (t : Tracker) (u : Update) : List Deed :=
  t.callbacks.ready.toList.map fun _ => .tellReady u.key

/-- What the callback for the end of the call is told, if it is set. -/
def farewell (t : Tracker) (u : Update) : List Deed :=
  match u.dispatchError with
  | some e => t.callbacks.error.toList.map fun _ => .tellError (t.registry.describe e).1
  | none =>
    if u.isFinalized then t.callbacks.finalized.toList.map fun _ => .tellFinalized u.key u.events
    else []

/-- The outcome that an update brings, if it is the last one. -/
def verdict (t : Tracker) (u : Update) : Option Outcome :=
  match u.dispatchError with
  | some e => some (.failed u.key (t.registry.describe e).1)
  | none => u.finalBlock?.map fun b => .finalized u.key (Hash.normalize b)

/-- Whether an update makes the record: it is the first ready one. -/
def enters (t : Tracker) (u : Update) : Bool := u.isReady && t.tracked.isNone

/-- Whether the callback for ready calls breaks off at an update. -/
def breaksAt (t : Tracker) (u : Update) : Prop :=
  t.enters u ∧ t.callbacks.ready = some .breaksOff

/-- The tracker after an update. -/
def after (t : Tracker) (u : Update) : Tracker :=
  if t.enters u then { t with tracked := some u.key } else t

theorem isSome_verdict (t : Tracker) (u : Update) :
  (t.verdict u).isSome = u.isLast
  := by
  rw [verdict, Update.isLast]
  cases h : u.dispatchError with
  | none => simp [Update.isFinalized]
  | some e => rfl

theorem plain_of_not_isLast {u : Update} (t : Tracker) (h : u.isLast = false) :
  t.plain u = u.inclusion
  := by
  obtain ⟨he, hf⟩ := (Update.not_isLast_iff u).1 h
  simp [plain, ending, he, hf, Update.isFinalized]

theorem farewell_of_not_isLast {u : Update} (t : Tracker) (h : u.isLast = false) :
  t.farewell u = []
  := by
  obtain ⟨he, hf⟩ := (Update.not_isLast_iff u).1 h
  simp [farewell, he, hf, Update.isFinalized]

theorem writes_lifecycle (t : Tracker) :
  writes t.lifecycle = []
  := by
  rw [lifecycle]
  cases t.tracked <;> rfl

theorem tellings_lifecycle (t : Tracker) :
  tellings t.lifecycle = []
  := by
  rw [lifecycle]
  cases t.tracked <;> rfl

theorem writes_describeMetrics (r : Registry) (e : DispatchError) :
  writes ((r.describeMetrics e).map Deed.count) = []
  := by
  rw [Registry.describeMetrics]
  cases (r.describe e).2 <;> rfl

theorem tellings_describeMetrics (r : Registry) (e : DispatchError) :
  tellings ((r.describeMetrics e).map Deed.count) = []
  := by
  rw [Registry.describeMetrics]
  cases (r.describe e).2 <;> rfl

theorem writes_enter (t : Tracker) (now : BitVec 64) (u : Update) :
  writes (t.enter now u.key u).1 = if t.enters u then [t.addition (now, u)] else []
  := by
  rw [enter, enters]
  split
  · rcases h : t.callbacks.ready with _ | _ | _ <;> simp [writes_cons, Deed.write?, addition]
  · rfl

theorem tellings_enter (t : Tracker) (now : BitVec 64) (u : Update) :
  tellings (t.enter now u.key u).1 = if t.enters u then t.welcome u else []
  := by
  rw [enter, enters]
  split
  · rcases h : t.callbacks.ready with _ | _ | _ <;>
      simp [tellings_cons, Deed.tells, welcome, h]
  · rfl

/-- Either the callback for ready calls breaks off, or the tracker goes on. -/
theorem enter_snd (t : Tracker) (now : BitVec 64) (u : Update) :
  (t.breaksAt u ∧ (t.enter now u.key u).2 = (t, true))
    ∨ (¬ t.breaksAt u ∧ (t.enter now u.key u).2 = (t.after u, false))
  := by
  rw [enter, show (u.isReady && t.tracked.isNone) = t.enters u from rfl, breaksAt, after]
  by_cases henter : t.enters u
  · rcases h : t.callbacks.ready with _ | _ | _ <;> simp [henter]
  · simp [henter]

theorem conclude_eq_none (t : Tracker) {u : Update} (h : u.isLast = false) :
  t.conclude u.key u = none
  := by
  obtain ⟨he, hf⟩ := (Update.not_isLast_iff u).1 h
  simp [conclude, he, hf]

theorem writes_finish {t : Tracker} {first : List Deed} {callback : Option Callback}
    {told : Deed} {status : Status} {outcome : Outcome} (h : told.write? = none) :
  writes (t.finish first callback told status outcome).1 = writes first
  := by
  rcases callback with _ | _ | _ <;>
    simp [finish, writes_cons, writes_lifecycle, h]

theorem tellings_finish {t : Tracker} {first : List Deed} {callback : Option Callback}
    {told : Deed} {status : Status} {outcome : Outcome} (h : told.tells) :
  tellings (t.finish first callback told status outcome).1
    = tellings first ++ callback.toList.map fun _ => told
  := by
  rcases callback with _ | _ | _ <;>
    simp [finish, tellings_cons, tellings_lifecycle, h]

@[simp] theorem ending_after (t : Tracker) (u v : Update) :
  (t.after u).ending v = t.ending v
  := by
  rw [after]
  split <;> rfl

@[simp] theorem plain_after (t : Tracker) (u v : Update) :
  (t.after u).plain v = t.plain v
  := by
  rw [plain, ending_after, plain]

@[simp] theorem welcome_after (t : Tracker) (u v : Update) :
  (t.after u).welcome v = t.welcome v
  := by
  rw [after]
  split <;> rfl

@[simp] theorem farewell_after (t : Tracker) (u v : Update) :
  (t.after u).farewell v = t.farewell v
  := by
  rw [after]
  split <;> rfl

@[simp] theorem verdict_after (t : Tracker) (u v : Update) :
  (t.after u).verdict v = t.verdict v
  := by
  rw [after]
  split <;> rfl

theorem tracked_after (t : Tracker) (u : Update) :
  (t.after u).tracked = if t.enters u then some u.key else t.tracked
  := by
  rw [after]
  split <;> rfl

@[simp] theorem callbacks_after (t : Tracker) (u : Update) :
  (t.after u).callbacks = t.callbacks
  := by
  rw [after]
  split <;> rfl

@[simp] theorem fresh_after (t : Tracker) (u : Update) :
  (t.after u).fresh = t.fresh
  := by
  rw [after]
  split <;> rfl

/-- The end of a call: its write, what the callback is told, and the outcome, unless the
callback breaks off. -/
theorem conclude_of_isLast (t : Tracker) {u : Update} (h : u.isLast) :
  ∃ ds o, t.conclude u.key u = some (ds, o)
    ∧ writes ds = t.ending u ∧ tellings ds = t.farewell u
    ∧ (t.verdict u = some o ∨ ¬ t.callbacks.AllReturn ∧ o = .abandoned none)
  := by
  rw [conclude]
  cases he : u.dispatchError with
  | some e =>
    refine ⟨(t.finish ((t.registry.describeMetrics e).map Deed.count
        ++ [.write (.error u.key (t.registry.describe e).1)])
      t.callbacks.error (.tellError (t.registry.describe e).1) .error
      (.failed u.key (t.registry.describe e).1)).1, _, rfl, ?_, ?_, ?_⟩
    · rw [writes_finish rfl, writes_append, writes_describeMetrics, ending, he]
      rfl
    · rw [tellings_finish rfl, tellings_append, tellings_describeMetrics, farewell, he]
      rfl
    · rw [verdict, he]
      rcases hcall : t.callbacks.error with _ | _ | _
      · left
        rfl
      · left
        rfl
      · right
        constructor
        · rintro ⟨-, -, hc⟩
          apply hc hcall
        · rfl
  | none =>
    cases hf : u.finalBlock? with
    | none => simp [Update.isLast, Update.isFinalized, he, hf] at h
    | some b =>
      refine ⟨(t.finish [.write (.status u.key .finalized)] t.callbacks.finalized
        (.tellFinalized u.key u.events) .finalized
        (.finalized u.key (Hash.normalize b))).1, _, rfl, ?_, ?_, ?_⟩
      · rw [writes_finish rfl]
        simp [ending, he, hf, Update.isFinalized, writes_cons]
      · rw [tellings_finish rfl]
        simp [farewell, he, hf, Update.isFinalized, tellings_cons]
      · rw [verdict, he, hf]
        rcases hcall : t.callbacks.finalized with _ | _ | _
        · left
          rfl
        · left
          rfl
        · right
          constructor
          · rintro ⟨-, hc, -⟩
            apply hc hcall
          · rfl

theorem writes_noteBlock (u : Update) :
  writes (noteBlock u.key u) = u.inclusion
  := by
  rw [noteBlock, Update.inclusion]
  cases u.block? <;> rfl

theorem tellings_noteBlock (u : Update) :
  tellings (noteBlock u.key u) = []
  := by
  rw [noteBlock]
  cases u.block? <;> rfl

/-- A tracker breaks off at an update, or it takes one that is not the last, or it takes the
last one. -/
theorem receive_cases (t : Tracker) (now : BitVec 64) (u : Update) :
  (t.breaksAt u
      ∧ t.receive now u = ((t.enter now u.key u).1, t, some (.abandoned none)))
    ∨ (¬ t.breaksAt u ∧ u.isLast = false
      ∧ t.receive now u = ((t.enter now u.key u).1 ++ noteBlock u.key u, t.after u, none))
    ∨ (¬ t.breaksAt u ∧ u.isLast = true ∧ ∃ ds o,
      t.receive now u
          = ((t.enter now u.key u).1 ++ noteBlock u.key u ++ ds, t.after u, some o)
        ∧ writes ds = t.ending u ∧ tellings ds = t.farewell u
        ∧ (t.verdict u = some o ∨ ¬ t.callbacks.AllReturn ∧ o = .abandoned none))
  := by
  rw [receive, show Hash.normalize u.hash = u.key from rfl]
  rcases henter : t.enter now u.key u with ⟨entering, rest⟩
  have hsnd := t.enter_snd now u
  rw [henter] at hsnd
  rcases hsnd with ⟨hbreak, rfl⟩ | ⟨hbreak, rfl⟩
  · left
    use hbreak
  · right
    dsimp only
    cases hlast : u.isLast with
    | false =>
      left
      rw [(t.after u).conclude_eq_none hlast]
      use hbreak
    | true =>
      right
      obtain ⟨ds, o, hconclude, h⟩ := (t.after u).conclude_of_isLast hlast
      rw [ending_after, farewell_after, verdict_after, callbacks_after] at h
      rw [hconclude]
      use hbreak, rfl, ds, o, rfl

/-- The writes of an update. When the callback for ready calls breaks off, only the record
has been made. -/
theorem writes_receive (t : Tracker) (now : BitVec 64) (u : Update) :
  (t.breaksAt u → writes (t.receive now u).1 = [t.addition (now, u)])
    ∧ (¬ t.breaksAt u → writes (t.receive now u).1
      = (if t.enters u then [t.addition (now, u)] else []) ++ t.plain u)
  := by
  have hentry := t.writes_enter now u
  rcases t.receive_cases now u with
    ⟨hbreak, h⟩ | ⟨hbreak, hlast, h⟩ | ⟨hbreak, -, ds, o, h, hwrites, -⟩
  · rw [if_pos hbreak.1] at hentry
    simp [hbreak, h, hentry]
  · simp [hbreak, h, hentry, writes_noteBlock, t.plain_of_not_isLast hlast]
  · simp [hbreak, h, hentry, writes_noteBlock, hwrites, plain]

/-- What the callbacks are told of an update. -/
theorem tellings_receive (t : Tracker) (now : BitVec 64) (u : Update) (h : ¬ t.breaksAt u) :
  tellings (t.receive now u).1 = (if t.enters u then t.welcome u else []) ++ t.farewell u
  := by
  have hentry := t.tellings_enter now u
  rcases t.receive_cases now u with ⟨hbreak, -⟩ | ⟨-, hlast, h⟩ | ⟨-, -, ds, o, h, -, htell, -⟩
  · exact (h hbreak).elim
  · simp [h, hentry, tellings_noteBlock, t.farewell_of_not_isLast hlast]
  · simp [h, hentry, tellings_noteBlock, htell]

/-- The tracker stops at the last update, and when the callback for ready calls breaks
off. -/
theorem isSome_receive (t : Tracker) (now : BitVec 64) (u : Update) :
  (t.receive now u).2.2.isSome ↔ t.breaksAt u ∨ u.isLast
  := by
  rcases t.receive_cases now u with ⟨hbreak, h⟩ | ⟨hbreak, hlast, h⟩ | ⟨-, hlast, ds, o, h, -⟩
  · simp [h, hbreak]
  · simp [h, hbreak, hlast]
  · simp [h, hlast]

theorem tracker_receive (t : Tracker) (now : BitVec 64) (u : Update) (h : ¬ t.breaksAt u) :
  (t.receive now u).2.1 = t.after u
  := by
  rcases t.receive_cases now u with ⟨hbreak, -⟩ | ⟨-, -, h⟩ | ⟨-, -, ds, o, h, -⟩
  · exact (h hbreak).elim
  · rw [h]
  · rw [h]

/-- A tracker that goes on writes the record, if it makes one, and the block of the update. -/
theorem receive_eq_none {t : Tracker} {now : BitVec 64} {u : Update} (h : (t.receive now u).2.2 = none) :
  writes (t.receive now u).1 = (if t.enters u then [t.addition (now, u)] else []) ++ u.inclusion
    ∧ (t.receive now u).2.1 = t.after u
  := by
  have hstops := not_congr (t.isSome_receive now u)
  rw [h, not_or] at hstops
  obtain ⟨hbreak, hlast⟩ := hstops.1 Bool.false_ne_true
  rw [(t.writes_receive now u).2 hbreak, t.plain_of_not_isLast (Bool.eq_false_iff.2 hlast)]
  use rfl
  apply t.tracker_receive now u hbreak

theorem fresh_receive (t : Tracker) (now : BitVec 64) (u : Update) :
  (t.receive now u).2.1.fresh = t.fresh
  := by
  rcases t.receive_cases now u with ⟨-, h⟩ | ⟨-, -, h⟩ | ⟨-, -, ds, o, h, -⟩ <;> simp [h]

theorem not_breaksAt {t : Tracker} (hc : t.callbacks.AllReturn) (u : Update) :
  ¬ t.breaksAt u
  := fun h => hc.1 h.2

/-- The outcome of an update when no callback breaks off. -/
theorem outcome_receive {t : Tracker} (hc : t.callbacks.AllReturn) (now : BitVec 64)
    (u : Update) :
  (t.receive now u).2.2 = t.verdict u
  := by
  rcases t.receive_cases now u with
    ⟨hbreak, -⟩ | ⟨-, hlast, h⟩ | ⟨-, -, ds, o, h, -, -, hverdict⟩
  · exact (not_breaksAt hc u hbreak).elim
  · rw [h]
    symm
    apply Option.isNone_iff_eq_none.1
    rw [← Option.not_isSome, isSome_verdict, hlast]
    rfl
  · rw [h, hverdict.resolve_right fun hbreak => hbreak.1 hc]

/-! ### A list of updates -/

/-- What a tracker does with updates, each taken at its time, until it stops: the deeds, the
tracker after them, and its outcome if it stops. -/
def follow (t : Tracker) : List Taken → List Deed × Tracker × Option Outcome
  | [] => ([], t, none)
  | (now, u) :: es =>
    match t.receive now u with
    | (ds, t, some o) => (ds, t, some o)
    | (ds, t, none) => (ds ++ (t.follow es).1, (t.follow es).2)

theorem follow_cons_some {t : Tracker} {e : Taken} {o : Outcome}
    (h : (t.receive e.1 e.2).2.2 = some o) (es : List Taken) :
  t.follow (e :: es) = t.receive e.1 e.2
  := by
  rw [follow]
  rcases hr : t.receive e.1 e.2 with ⟨ds, t', _ | o'⟩
  · rw [hr] at h
    cases h
  · rfl

theorem follow_cons_none {t : Tracker} {e : Taken} (h : (t.receive e.1 e.2).2.2 = none)
    (es : List Taken) :
  t.follow (e :: es)
    = ((t.receive e.1 e.2).1 ++ ((t.receive e.1 e.2).2.1.follow es).1,
      ((t.receive e.1 e.2).2.1.follow es).2)
  := by
  rw [follow]
  rcases hr : t.receive e.1 e.2 with ⟨ds, t', _ | o'⟩
  · rfl
  · rw [hr] at h
    cases h

theorem follow_append_none {t : Tracker} {es : List Taken} (h : (t.follow es).2.2 = none)
    (es' : List Taken) :
  t.follow (es ++ es')
    = ((t.follow es).1 ++ ((t.follow es).2.1.follow es').1, ((t.follow es).2.1.follow es').2)
  := by
  induction es generalizing t with
  | nil => rfl
  | cons e es ih =>
    rw [List.cons_append]
    cases hr : (t.receive e.1 e.2).2.2 with
    | some o =>
      rw [follow_cons_some hr, hr] at h
      cases h
    | none =>
      rw [follow_cons_none hr] at h ⊢
      rw [follow_cons_none hr, ih h, List.append_assoc]

/-- Following one more update. -/
theorem follow_concat {t : Tracker} {es : List Taken} (h : (t.follow es).2.2 = none)
    (e : Taken) :
  t.follow (es ++ [e])
    = ((t.follow es).1 ++ ((t.follow es).2.1.receive e.1 e.2).1,
      ((t.follow es).2.1.receive e.1 e.2).2)
  := by
  rw [follow_append_none h]
  cases hr : ((t.follow es).2.1.receive e.1 e.2).2.2 with
  | some o => rw [follow_cons_some hr]
  | none =>
    rw [follow_cons_none hr, follow, List.append_nil, ← hr]

/-- A tracker that has not stopped has taken no last update. -/
theorem not_isLast_of_follow {t : Tracker} {es : List Taken} (h : (t.follow es).2.2 = none) :
  ∀ e ∈ es, e.2.isLast = false
  := by
  induction es generalizing t with
  | nil =>
    rintro e ⟨⟩
  | cons d es ih =>
    have hgoes := t.isSome_receive d.1 d.2
    cases hr : (t.receive d.1 d.2).2.2 with
    | some o =>
      rw [follow_cons_some hr, hr] at h
      cases h
    | none =>
      rw [follow_cons_none hr] at h
      rw [hr] at hgoes
      intro e he
      rcases List.mem_cons.1 he with rfl | he
      · have hlast := mt Or.inr (mt hgoes.2 Bool.false_ne_true)
        apply Bool.eq_false_iff.2 hlast
      · apply ih h e he

/-! ### Closed forms -/

/-- Updates of which none but the final one is the last one of its call. -/
def Course (es : List Taken) : Prop := ∀ e ∈ es.dropLast, e.2.isLast = false

theorem Course.tail {e : Taken} {es : List Taken} (h : Course (e :: es)) :
  Course es
  := by
  intro d hd
  apply h d
  cases es with
  | nil => cases hd
  | cons d' es => apply List.mem_cons_of_mem _ hd

/-- After the last update of its call there is none. -/
theorem Course.eq_nil {e : Taken} {es : List Taken} (h : Course (e :: es))
    (hlast : e.2.isLast) :
  es = []
  := by
  cases es with
  | nil => rfl
  | cons d es =>
    have := h e List.mem_cons_self
    rw [hlast] at this
    cases this

section AllReturn

variable {t : Tracker} (hc : t.callbacks.AllReturn)

include hc

theorem follow_cons {e : Taken} {es : List Taken} (h : Course (e :: es)) :
  t.follow (e :: es)
    = ((t.receive e.1 e.2).1 ++ ((t.after e.2).follow es).1,
      ((t.after e.2).follow es).2.1, (t.verdict e.2).or ((t.after e.2).follow es).2.2)
  := by
  have hafter := t.tracker_receive e.1 e.2 (not_breaksAt hc e.2)
  have houtcome := outcome_receive hc e.1 e.2
  cases hv : t.verdict e.2 with
  | none =>
    rw [hv] at houtcome
    rw [follow_cons_none houtcome, hafter]
    rfl
  | some o =>
    have hlast : e.2.isLast := by
      rw [← t.isSome_verdict, hv]
      rfl
    obtain rfl := h.eq_nil hlast
    rw [hv] at houtcome
    rw [follow_cons_some houtcome, follow, List.append_nil, ← hafter, Option.some_or,
      ← houtcome]

/-- The writes of a tracker whose record is made: inclusions, and the end of the call. -/
theorem writes_follow_of_isSome (ht : t.tracked.isSome) {es : List Taken} (h : Course es) :
  writes (t.follow es).1 = es.flatMap fun e => t.plain e.2
  := by
  induction es with
  | nil => rfl
  | cons e es ih =>
    have henters : t.enters e.2 = false := by
      rw [enters, ← Option.not_isSome, ht, Bool.not_true, Bool.and_false]
    have hafter : t.after e.2 = t := by
      rw [after, henters]
      rfl
    rw [follow_cons hc h, hafter, writes_append, ih h.tail,
      (t.writes_receive e.1 e.2).2 (not_breaksAt hc e.2), henters]
    rfl

/-- The writes of a tracker that has made no record: its making stands before the other
writes of the first ready update. -/
theorem writes_follow (ht : t.tracked = none) {es : List Taken} (h : Course es) :
  writes (t.follow es).1
    = (es.takeWhile fun e => !e.2.isReady).flatMap (fun e => t.plain e.2)
      ++ (es.find? fun e => e.2.isReady).toList.map t.addition
      ++ (es.dropWhile fun e => !e.2.isReady).flatMap (fun e => t.plain e.2)
  := by
  induction es with
  | nil => rfl
  | cons e es ih =>
    have henters : t.enters e.2 = e.2.isReady := by
      rw [enters, ht, Option.isNone_none, Bool.and_true]
    rw [follow_cons hc h, writes_append, (t.writes_receive e.1 e.2).2 (not_breaksAt hc e.2),
      henters]
    cases hready : e.2.isReady with
    | true =>
      have hsome : (t.after e.2).tracked.isSome := by
        rw [tracked_after, henters, hready]
        rfl
      have hrest := writes_follow_of_isSome ((callbacks_after t e.2).symm ▸ hc) hsome h.tail
      simp [hready, hrest]
    | false =>
      have hafter : t.after e.2 = t := by
        rw [after, henters, hready]
        rfl
      simp [hready, hafter, ih h.tail]

/-- What a tracker tells its callbacks: the first ready update, unless the record was made
before, and the last update. -/
theorem tellings_follow {es : List Taken} (h : Course es) :
  tellings (t.follow es).1
    = (if t.tracked.isNone then (es.find? fun e => e.2.isReady) else none).toList.flatMap
        (fun e => t.welcome e.2)
      ++ (es.find? fun e => e.2.isLast).toList.flatMap fun e => t.farewell e.2
  := by
  induction es generalizing t with
  | nil => simp [follow]
  | cons e es ih =>
    rw [follow_cons hc h, tellings_append, ih (by rwa [callbacks_after]) h.tail,
      t.tellings_receive e.1 e.2 (not_breaksAt hc e.2)]
    -- After a last update nothing is taken, so what it tells comes at the end.
    cases hlast : e.2.isLast with
    | true =>
      obtain rfl := h.eq_nil hlast
      cases hready : e.2.isReady <;> cases ht : t.tracked <;>
        simp [hlast, hready, ht, enters]
    | false =>
      cases hready : e.2.isReady <;> cases ht : t.tracked <;>
        simp [hlast, hready, ht, enters, tracked_after, t.farewell_of_not_isLast hlast]

/-- The outcome is that of the last update. -/
theorem outcome_follow {es : List Taken} (h : Course es) :
  (t.follow es).2.2 = (es.find? fun e => e.2.isLast).bind fun e => t.verdict e.2
  := by
  induction es generalizing t with
  | nil => rfl
  | cons e es ih =>
    rw [follow_cons hc h, ih (by rwa [callbacks_after]) h.tail]
    cases hlast : e.2.isLast with
    | true =>
      obtain ⟨o, ho⟩ := Option.isSome_iff_exists.1 ((t.isSome_verdict e.2).trans hlast)
      simp [hlast, ho]
    | false =>
      have hv : t.verdict e.2 = none := by
        rw [← Option.isNone_iff_eq_none, ← Option.not_isSome, isSome_verdict, hlast]
        rfl
      simp [hlast, hv]

/-- The hash of the record is that of the first ready update. -/
theorem tracked_follow {es : List Taken} (h : Course es) :
  (t.follow es).2.1.tracked
    = t.tracked.or ((es.find? fun e => e.2.isReady).map fun e => e.2.key)
  := by
  induction es generalizing t with
  | nil => simp [follow]
  | cons e es ih =>
    rw [follow_cons hc h, ih (by rwa [callbacks_after]) h.tail, tracked_after, enters]
    cases hready : e.2.isReady <;> cases ht : t.tracked <;> simp [hready]

end AllReturn

end Tracker

end Extrinsics
