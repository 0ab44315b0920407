import Extrinsics.Proofs.Tracking.Determined

/-!
# Interrupted tracking

A callback that breaks off cuts short what a tracker does. Up to there the tracker does what
it would do if every callback returned. The last thing it does is to tell the callback; then
the duration is reported, if the timer has been started.
-/

namespace Extrinsics

/-- Whether the timer is started right after a deed: it is when the making of the record has
been counted. -/
def Deed.startsTimer : Deed → Bool
  | .count .recordCreated => true
  | _ => false

namespace Callbacks

/-- The callback that a deed tells, if it is set. -/
def told? (c : Callbacks) : Deed → Option Callback
  | .tellReady _ => c.ready
  | .tellFinalized _ _ => c.finalized
  | .tellError _ => c.error
  | _ => none

/-- Whether a deed tells a callback that breaks off. -/
def breaksOffAt (c : Callbacks) (d : Deed) : Bool := c.told? d = some .breaksOff

/-- The same callbacks, except that all of them return. -/
def calm (c : Callbacks) : Callbacks where
  ready := c.ready.map fun _ => .returns
  finalized := c.finalized.map fun _ => .returns
  error := c.error.map fun _ => .returns

/-- What is left of deeds when callbacks break off, given whether the timer had been started
before them. -/
def cut (c : Callbacks) : Bool → List Deed → List Deed
  | _, [] => []
  | started, d :: ds =>
    if c.breaksOffAt d then d :: if started then [.count (.lifecycle ())] else []
    else d :: c.cut (started || d.startsTimer) ds

variable (c : Callbacks)

theorem allReturn_calm :
  c.calm.AllReturn
  := by
  rcases c with ⟨_ | _, _ | _, _ | _⟩ <;> simp [calm, AllReturn]

theorem cut_of_returns {ds : List Deed} (h : ds.any c.breaksOffAt = false) (b : Bool)
    (ds' : List Deed) :
  c.cut b (ds ++ ds') = ds ++ c.cut (b || ds.any Deed.startsTimer) ds'
  := by
  induction ds generalizing b with
  | nil => simp
  | cons d ds ih =>
    obtain ⟨hd, hds⟩ := Bool.or_eq_false_iff.1 (List.any_cons.symm.trans h)
    rw [List.cons_append, cut, hd, if_neg Bool.false_ne_true, ih hds, List.any_cons, Bool.or_assoc]
    rfl

/-- Nothing is cut off from deeds at which no callback breaks off. -/
theorem cut_eq_self {ds : List Deed} (h : ds.any c.breaksOffAt = false) (b : Bool) :
  c.cut b ds = ds
  := by
  have hcut := c.cut_of_returns h b []
  rwa [cut, List.append_nil] at hcut

/-- What comes after the deed at which a callback breaks off is cut off. -/
theorem cut_of_breaksOff {before : List Deed} {d : Deed}
    (hbefore : before.any c.breaksOffAt = false) (hd : c.breaksOffAt d) (b : Bool)
    (ds : List Deed) :
  c.cut b (before ++ d :: ds)
    = before ++ d :: if b || before.any Deed.startsTimer then [.count (.lifecycle ())] else []
  := by
  rw [c.cut_of_returns hbefore, cut, if_pos hd]

/-- The first deed at which a callback breaks off. -/
theorem exists_first {ds : List Deed} (h : ds.any c.breaksOffAt) :
  ∃ before d rest, ds = before ++ d :: rest ∧ before.any c.breaksOffAt = false
    ∧ c.breaksOffAt d
  := by
  induction ds with
  | nil => cases h
  | cons d ds ih =>
    cases hd : c.breaksOffAt d with
    | true => use [], d, ds, rfl, rfl, hd
    | false =>
      rw [List.any_cons, hd, Bool.false_or] at h
      obtain ⟨before, e, rest, rfl, hbefore, he⟩ := ih h
      use d :: before, e, rest, rfl
      rw [List.any_cons, hd]
      use hbefore

theorem cut_append {ds : List Deed} (h : ds.any c.breaksOffAt) (b : Bool) (ds' : List Deed) :
  c.cut b (ds ++ ds') = c.cut b ds
  := by
  obtain ⟨before, d, rest, rfl, hbefore, hd⟩ := c.exists_first h
  rw [List.append_assoc, List.cons_append, c.cut_of_breaksOff hbefore hd,
    c.cut_of_breaksOff hbefore hd]

/-- The telling at which a callback breaks off is not cut off. -/
@[simp] theorem any_cut (b : Bool) (ds : List Deed) :
  (c.cut b ds).any c.breaksOffAt = ds.any c.breaksOffAt
  := by
  cases h : ds.any c.breaksOffAt with
  | false => rw [c.cut_eq_self h, h]
  | true =>
    obtain ⟨before, d, rest, rfl, hbefore, hd⟩ := c.exists_first h
    rw [c.cut_of_breaksOff hbefore hd, List.any_append, List.any_cons, hd, Bool.true_or,
      Bool.or_true]

end Callbacks

namespace Tracker

/-- The tracker with callbacks that all return. -/
def calm (t : Tracker) : Tracker := { t with callbacks := t.callbacks.calm }

@[simp] theorem enters_calm (t : Tracker) (u : Update) :
  t.calm.enters u = t.enters u
  := rfl

theorem after_calm (t : Tracker) (u : Update) :
  t.calm.after u = (t.after u).calm
  := by
  rw [after, after, enters_calm]
  split <;> rfl

theorem not_breaksAt_calm (t : Tracker) (u : Update) :
  ¬ t.calm.breaksAt u
  := not_breaksAt (t := t.calm) t.callbacks.allReturn_calm u

theorem callbacks_receive (t : Tracker) (now : BitVec 64) (u : Update) :
  (t.receive now u).2.1.callbacks = t.callbacks
  := by
  have hfresh := congrArg callbacks (t.fresh_receive now u)
  apply hfresh

/-- What a tracker does is what it does when its callbacks return, but cut short. Where a
callback breaks off, the call is abandoned. -/
structure Cuts (c : Callbacks) (started : Bool) (r whole : List Deed × Tracker × Option Outcome) :
    Prop where
  done : r.1 = c.cut started whole.1
  broken : whole.1.any c.breaksOffAt → r.2.2 = some (.abandoned none)
  unbroken : whole.1.any c.breaksOffAt = false → whole.2 = (r.2.1.calm, r.2.2)

/-- What would come after a callback that breaks off does not matter. -/
theorem Cuts.of_broken {c : Callbacks} {ds : List Deed} (h : ds.any c.breaksOffAt) {b : Bool}
    {r : List Deed × Tracker × Option Outcome} (hdone : r.1 = c.cut b ds)
    (hout : r.2.2 = some (.abandoned none)) (ds' : List Deed) (rest : Tracker × Option Outcome) :
  Cuts c b r (ds ++ ds', rest)
  where
  done := by rw [c.cut_append h, hdone]
  broken := fun _ => hout
  unbroken := by
    rw [List.any_append, h]
    rintro ⟨⟩

/-- Where no callback breaks off, it makes no difference that the others return. -/
theorem Cuts.of_unbroken {c : Callbacks} {ds : List Deed} (h : ds.any c.breaksOffAt = false)
    (b : Bool) (t : Tracker) (o : Option Outcome) :
  Cuts c b (ds, t, o) (ds, t.calm, o)
  where
  done := (c.cut_eq_self h b).symm
  broken := by
    rw [h]
    rintro ⟨⟩
  unbroken := fun _ => rfl

/-- Deeds at which no callback breaks off stay. -/
theorem Cuts.append {c : Callbacks} {ds : List Deed} {b : Bool}
    {r whole : List Deed × Tracker × Option Outcome}
    (hrest : Cuts c (b || ds.any Deed.startsTimer) r whole)
    (h : ds.any c.breaksOffAt = false) :
  Cuts c b (ds ++ r.1, r.2) (ds ++ whole.1, whole.2)
  where
  done := by rw [c.cut_of_returns h, hrest.done]
  broken := by
    rw [List.any_append, h]
    apply hrest.broken
  unbroken := by
    rw [List.any_append, h]
    apply hrest.unbroken

/-! ### One update -/

/-- The timer is started when the record is made, unless the callback for ready calls breaks
off. -/
theorem any_startsTimer_enter {t : Tracker} {u : Update} (h : ¬ t.breaksAt u)
    (now : BitVec 64) :
  (t.enter now u.key u).1.any Deed.startsTimer = t.enters u
  := by
  rw [enter, show (u.isReady && t.tracked.isNone) = t.enters u from rfl]
  rw [breaksAt] at h
  cases henters : t.enters u with
  | false => rfl
  | true =>
    rcases hready : t.callbacks.ready with _ | _ | _
    · rfl
    · rfl
    · exact (h ⟨henters, hready⟩).elim

theorem isSome_tracked_after (t : Tracker) (u : Update) :
  (t.after u).tracked.isSome = (t.tracked.isSome || t.enters u)
  := by
  rw [tracked_after]
  cases henters : t.enters u <;> simp

theorem any_breaksOffAt_noteBlock (c : Callbacks) (k : String) (u : Update) :
  (noteBlock k u).any c.breaksOffAt = false
  := by
  rw [noteBlock]
  cases u.block? <;> rfl

theorem any_startsTimer_noteBlock (k : String) (u : Update) :
  (noteBlock k u).any Deed.startsTimer = false
  := by
  rw [noteBlock]
  cases u.block? <;> rfl

/-- The first ready update is cut short at the telling of it. -/
theorem enter_calm (t : Tracker) (now : BitVec 64) (u : Update) :
  (t.enter now u.key u).1 = t.callbacks.cut t.tracked.isSome (t.calm.enter now u.key u).1
    ∧ ((t.calm.enter now u.key u).1.any t.callbacks.breaksOffAt ↔ t.breaksAt u)
  := by
  rw [enter, enter, breaksAt, show (u.isReady && t.tracked.isNone) = t.enters u from rfl,
    show (u.isReady && t.calm.tracked.isNone) = t.enters u from rfl]
  cases henters : t.enters u with
  | false => simp [Callbacks.cut]
  | true =>
    obtain ⟨-, hnone⟩ := Bool.and_eq_true_iff.1 henters
    obtain hnone := Option.isNone_iff_eq_none.1 hnone
    rcases hready : t.callbacks.ready with _ | _ | _ <;>
      simp [hready, hnone, calm, Callbacks.calm, Callbacks.cut, Callbacks.breaksOffAt,
        Callbacks.told?, record, Deed.startsTimer]

theorem lifecycle_eq (t : Tracker) :
  t.lifecycle = if t.tracked.isSome then [.count (.lifecycle ())] else []
  := by
  rw [lifecycle]
  cases t.tracked <;> rfl

/-- The end of a call is cut short at the telling of it. -/
theorem finish_calm {t : Tracker} {first : List Deed}
    (hfirst : first.any t.callbacks.breaksOffAt = false)
    (htimer : first.any Deed.startsTimer = false) (told : Deed) (status : Status)
    (outcome : Outcome) :
  let ending := t.finish first (t.callbacks.told? told) told status outcome
  let whole := t.calm.finish first (t.calm.callbacks.told? told) told status outcome
  Cuts t.callbacks t.tracked.isSome (ending.1, t, some ending.2) (whole.1, t.calm, some whole.2)
  := by
  have hcalm : t.calm.callbacks.told? told = (t.callbacks.told? told).map fun _ => .returns := by
    cases told <;> rfl
  have hcounted : (Deed.count (.terminal status.name) :: t.lifecycle).any
      t.callbacks.breaksOffAt = false := by
    rw [lifecycle_eq]
    cases t.tracked <;> rfl
  have hlifecycle : t.calm.lifecycle = t.lifecycle := rfl
  rw [hcalm]
  rcases htold : t.callbacks.told? told with _ | _ | _
  · have hany : (first ++ Deed.count (.terminal status.name) :: t.lifecycle).any
        t.callbacks.breaksOffAt = false := by
      rw [List.any_append, hfirst, hcounted]
      rfl
    simp only [finish, Option.map_none, hlifecycle]
    apply Cuts.of_unbroken hany
  · have hany : (first ++ told :: Deed.count (.terminal status.name) :: t.lifecycle).any
        t.callbacks.breaksOffAt = false := by
      rw [List.any_append, List.any_cons, hfirst, hcounted, Callbacks.breaksOffAt, htold]
      rfl
    simp only [finish, Option.map_some, hlifecycle]
    apply Cuts.of_unbroken hany
  · have hbreak : t.callbacks.breaksOffAt told := by
      rw [Callbacks.breaksOffAt, htold]
      rfl
    have hany : (first ++ [told]).any t.callbacks.breaksOffAt := by
      simp [hbreak]
    simp only [finish, Option.map_some, hlifecycle]
    rw [List.append_cons first told (Deed.count _ :: _)]
    apply Cuts.of_broken hany _ rfl
    rw [Callbacks.cut_of_breaksOff _ hfirst hbreak, htimer, Bool.or_false, lifecycle_eq]

/-- The last deeds of a tracker are cut short at the telling of the end. -/
theorem conclude_calm (t : Tracker) (u : Update) :
  (t.conclude u.key u = none ∧ t.calm.conclude u.key u = none)
    ∨ ∃ ending whole, t.conclude u.key u = some ending ∧ t.calm.conclude u.key u = some whole
      ∧ Cuts t.callbacks t.tracked.isSome (ending.1, t, some ending.2)
        (whole.1, t.calm, some whole.2)
  := by
  rw [conclude, conclude]
  cases u.dispatchError with
  | some e =>
    right
    refine ⟨_, _, rfl, rfl, ?_⟩
    apply finish_calm _ _ (.tellError (t.registry.describe e).1)
    · rw [Registry.describeMetrics]
      cases (t.registry.describe e).2 <;> rfl
    · rw [Registry.describeMetrics]
      cases (t.registry.describe e).2 <;> rfl
  | none =>
    cases u.finalBlock? with
    | none =>
      left
      simp
    | some b =>
      right
      refine ⟨_, _, rfl, rfl, ?_⟩
      apply finish_calm rfl rfl (.tellFinalized u.key u.events)

/-- What a tracker does with an update is what it does when its callbacks return, but cut
short. -/
theorem receive_calm (t : Tracker) (now : BitVec 64) (u : Update) :
  Cuts t.callbacks t.tracked.isSome (t.receive now u) (t.calm.receive now u)
  := by
  obtain ⟨hcut, hany⟩ := t.enter_calm now u
  obtain ⟨-, hcalm⟩ := (t.calm.enter_snd now u).resolve_left fun h => t.not_breaksAt_calm u h.1
  rw [after_calm] at hcalm
  rw [receive, receive, show Hash.normalize u.hash = u.key from rfl,
    show t.calm.enter now u.key u = (_, (t.after u).calm, false) from Prod.ext rfl hcalm]
  rcases t.enter_snd now u with ⟨hbreak, hsnd⟩ | ⟨hbreak, hsnd⟩
  · rw [show t.enter now u.key u = (_, t, true) from Prod.ext hcut hsnd]
    dsimp only
    cases (t.after u).calm.conclude u.key u with
    | none => apply Cuts.of_broken (hany.2 hbreak) rfl rfl
    | some ending =>
      dsimp only
      rw [List.append_assoc]
      apply Cuts.of_broken (hany.2 hbreak) rfl rfl
  · have hreturns := Bool.eq_false_iff.2 (mt hany.1 hbreak)
    have hnoted : ((t.calm.enter now u.key u).1 ++ noteBlock u.key u).any
        t.callbacks.breaksOffAt = false := by
      rw [List.any_append, hreturns, any_breaksOffAt_noteBlock]
      rfl
    have htimer : ((t.calm.enter now u.key u).1 ++ noteBlock u.key u).any
        Deed.startsTimer = t.enters u := by
      rw [List.any_append, any_startsTimer_enter (t.not_breaksAt_calm u),
        any_startsTimer_noteBlock, Bool.or_false, enters_calm]
    rw [Callbacks.cut_eq_self _ hreturns] at hcut
    rw [show t.enter now u.key u = (_, t.after u, false) from Prod.ext hcut hsnd]
    dsimp only
    rcases (t.after u).conclude_calm u with ⟨h, h'⟩ | ⟨ending, whole, h, h', hends⟩
    · rw [h, h']
      apply Cuts.of_unbroken hnoted
    · rw [h, h']
      rw [callbacks_after, isSome_tracked_after, ← htimer] at hends
      apply hends.append hnoted

/-! ### A list of updates -/

/-- While a tracker goes on, its timer has been started when its record is made. -/
theorem isSome_tracked_of_goes {t : Tracker} {now : BitVec 64} {u : Update}
    (h : (t.receive now u).2.2 = none) :
  (t.receive now u).2.1.tracked.isSome
    = (t.tracked.isSome || (t.receive now u).1.any Deed.startsTimer)
  := by
  rcases t.receive_cases now u with ⟨-, hr⟩ | ⟨hbreak, -, hr⟩ | ⟨-, -, ds, o, hr, -⟩
  · rw [hr] at h
    cases h
  · rw [hr, isSome_tracked_after, List.any_append, any_startsTimer_enter hbreak,
      any_startsTimer_noteBlock, Bool.or_false]
  · rw [hr] at h
    cases h

/-- What a tracker does with updates is what it does when its callbacks return, but cut
short. -/
theorem follow_calm (t : Tracker) (es : List Taken) :
  Cuts t.callbacks t.tracked.isSome (t.follow es) (t.calm.follow es)
  := by
  induction es generalizing t with
  | nil => exact ⟨rfl, by rintro ⟨⟩, fun _ => rfl⟩
  | cons e es ih =>
    have hreceive := t.receive_calm e.1 e.2
    cases hany : (t.calm.receive e.1 e.2).1.any t.callbacks.breaksOffAt with
    | true =>
      have hout := hreceive.broken hany
      rw [follow_cons_some hout]
      cases hcalm : (t.calm.receive e.1 e.2).2.2 with
      | some o =>
        rw [follow_cons_some hcalm]
        apply hreceive
      | none =>
        rw [follow_cons_none hcalm]
        apply Cuts.of_broken hany hreceive.done hout
    | false =>
      have hsnd := hreceive.unbroken hany
      have hdone := hreceive.done
      rw [Callbacks.cut_eq_self _ hany] at hdone
      cases hout : (t.receive e.1 e.2).2.2 with
      | some o =>
        have hcalm : (t.calm.receive e.1 e.2).2.2 = some o := by
          rw [hsnd, hout]
        rw [follow_cons_some hout, follow_cons_some hcalm]
        apply hreceive
      | none =>
        have hcalm : (t.calm.receive e.1 e.2).2.2 = none := by
          rw [hsnd, hout]
        have hrest := ih (t.receive e.1 e.2).2.1
        rw [callbacks_receive, isSome_tracked_of_goes hout, hdone] at hrest
        rw [follow_cons_none hout, follow_cons_none hcalm, hsnd, hdone]
        apply hrest.append hany

/-- A tracker that takes more updates does more. -/
theorem follow_isPrefix {t : Tracker} {es es' : List Taken} (h : es <+: es') :
  (t.follow es).1 <+: (t.follow es').1
  := by
  obtain ⟨es'', rfl⟩ := h
  induction es generalizing t with
  | nil => apply List.nil_prefix
  | cons e es ih =>
    rw [List.cons_append]
    cases hout : (t.receive e.1 e.2).2.2 with
    | some o =>
      use []
      rw [List.append_nil, follow_cons_some hout, follow_cons_some hout]
    | none =>
      rw [follow_cons_none hout, follow_cons_none hout]
      apply (List.prefix_append_right_inj _).2 ih

end Tracker

end Extrinsics
