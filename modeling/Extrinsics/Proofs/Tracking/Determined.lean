import Extrinsics.Proofs.Tracking.Follow

/-!
# What the updates determine

What a tracker does is determined by the updates it takes and by the time at which it takes
the first ready one, which is the time of the creation of the record. Which of the updates it
takes, before it stops, is determined by the updates alone.
-/

namespace Extrinsics

/-- The time at which the first ready update is taken. -/
def creation (es : List Taken) : Option (BitVec 64) :=
  (es.find? fun e => e.2.isReady).map Prod.fst

theorem creation_cons (e : Taken) (es : List Taken) :
  creation (e :: es) = if e.2.isReady then some e.1 else creation es
  := by
  rw [creation, List.find?_cons]
  cases e.2.isReady <;> rfl

namespace Tracker

/-! ### Times -/

theorem enter_snd_eq (t : Tracker) (now now' : BitVec 64) (u : Update) :
  (t.enter now u.key u).2 = (t.enter now' u.key u).2
  := by
  rcases t.enter_snd now u with ⟨hbreak, h⟩ | ⟨hbreak, h⟩
  · rcases t.enter_snd now' u with ⟨-, h'⟩ | ⟨hbreak', -⟩
    · rw [h, h']
    · exact (hbreak' hbreak).elim
  · rcases t.enter_snd now' u with ⟨hbreak', -⟩ | ⟨-, h'⟩
    · exact (hbreak hbreak').elim
    · rw [h, h']

/-- Whether and how a tracker stops at an update does not depend on the time. -/
theorem receive_snd (t : Tracker) (now now' : BitVec 64) (u : Update) :
  (t.receive now u).2 = (t.receive now' u).2
  := by
  have henter := t.enter_snd_eq now now' u
  rw [receive, receive]
  rw [show Hash.normalize u.hash = u.key from rfl]
  generalize t.enter now u.key u = r at henter
  generalize t.enter now' u.key u = r' at henter
  obtain ⟨ds, t', b⟩ := r
  obtain ⟨ds', t'', b'⟩ := r'
  cases henter
  cases b with
  | true => rfl
  | false =>
    cases h : t'.conclude u.key u <;> simp [h]

/-- The time matters only when the record is made. -/
theorem receive_eq {t : Tracker} {u : Update} (h : t.enters u = false) (now now' : BitVec 64) :
  t.receive now u = t.receive now' u
  := by
  have henter : t.enter now u.key u = t.enter now' u.key u := by
    rw [enter, enter, show (u.isReady && t.tracked.isNone) = false from h]
    rfl
  rw [receive, receive]
  rw [show Hash.normalize u.hash = u.key from rfl, henter]

theorem isSome_tracked_receive {t : Tracker} (ht : t.tracked.isSome) (now : BitVec 64)
    (u : Update) :
  (t.receive now u).2.1.tracked.isSome
  := by
  have henters : t.enters u = false := by
    rw [enters, ← Option.not_isSome, ht, Bool.not_true, Bool.and_false]
  rw [t.tracker_receive now u]
  · rw [tracked_after, henters]
    apply ht
  · intro hbreak
    rw [breaksAt, henters] at hbreak
    cases hbreak.1

/-- A tracker that has taken a ready update and goes on has made its record. -/
theorem isSome_tracked_of_isReady {t : Tracker} {now : BitVec 64} {u : Update}
    (h : (t.receive now u).2.2 = none) (hready : u.isReady) :
  (t.receive now u).2.1.tracked.isSome
  := by
  have hbreak : ¬ t.breaksAt u := by
    intro hbreak
    have hstop := (t.isSome_receive now u).2 (.inl hbreak)
    rw [h] at hstop
    cases hstop
  rw [t.tracker_receive now u hbreak, tracked_after, enters, hready]
  cases t.tracked <;> rfl

/-- Taking the same updates comes to the same, if the record is created at the same time. -/
theorem follow_congr {t : Tracker} {es es' : List Taken}
    (h : es.map Prod.snd = es'.map Prod.snd)
    (hcreation : t.tracked.isSome ∨ creation es = creation es') :
  t.follow es = t.follow es'
  := by
  induction es generalizing t es' with
  | nil => rw [List.map_eq_nil_iff.1 h.symm]
  | cons e es ih =>
    cases es' with
    | nil => cases h
    | cons e' es' =>
      obtain ⟨now, u⟩ := e
      obtain ⟨now', u'⟩ := e'
      obtain ⟨hu, htail⟩ := List.cons.inj h
      dsimp only at hu
      subst hu
      rw [creation_cons, creation_cons] at hcreation
      have hreceive : t.receive now u = t.receive now' u := by
        cases henters : t.enters u with
        | false => apply receive_eq henters
        | true =>
          obtain ⟨hready, hnone⟩ := Bool.and_eq_true_iff.1 henters
          rcases hcreation with hsome | htime
          · rw [← Option.not_isSome, hsome] at hnone
            cases hnone
          · rw [if_pos hready, if_pos hready] at htime
            cases htime
            rfl
      cases hout : (t.receive now u).2.2 with
      | some o =>
        rw [follow_cons_some hout, follow_cons_some (hreceive ▸ hout), hreceive]
      | none =>
        have hlater : (t.receive now u).2.1.tracked.isSome ∨ creation es = creation es' := by
          rcases hcreation with hsome | htime
          · left
            apply isSome_tracked_receive hsome
          · cases hready : u.isReady with
            | true =>
              left
              apply isSome_tracked_of_isReady hout hready
            | false =>
              right
              rwa [if_neg (by simp [hready]), if_neg (by simp [hready])] at htime
        rw [follow_cons_none hout, follow_cons_none (hreceive ▸ hout), ih htail hlater, hreceive]

/-! ### Consumption -/

/-- The updates that a tracker takes of those that it is given. -/
def consumed (t : Tracker) : List Update → List Update
  | [] => []
  | u :: us =>
    match t.receive 0 u with
    | (_, _, some _) => [u]
    | (_, t, none) => u :: t.consumed us

theorem consumed_cons (t : Tracker) (now : BitVec 64) (u : Update) (us : List Update) :
  t.consumed (u :: us)
    = u :: if (t.receive now u).2.2.isSome then [] else (t.receive now u).2.1.consumed us
  := by
  rw [t.receive_snd now 0 u, consumed]
  rcases t.receive 0 u with ⟨ds, t', _ | o⟩ <;> rfl

/-- A tracker that goes on takes all it is given. -/
theorem consumed_of_follow {t : Tracker} {es : List Taken} (h : (t.follow es).2.2 = none) :
  t.consumed (es.map Prod.snd) = es.map Prod.snd
  := by
  induction es generalizing t with
  | nil => rfl
  | cons e es ih =>
    rw [List.map_cons, t.consumed_cons e.1]
    cases hout : (t.receive e.1 e.2).2.2 with
    | some o =>
      rw [follow_cons_some hout, hout] at h
      cases h
    | none =>
      rw [follow_cons_none hout] at h
      rw [ih h]
      rfl

/-- A tracker that has stopped takes nothing more. -/
theorem consumed_append {t : Tracker} {es : List Taken} {o : Outcome}
    (hearly : (t.follow es.dropLast).2.2 = none) (h : (t.follow es).2.2 = some o)
    (us : List Update) :
  t.consumed (es.map Prod.snd ++ us) = es.map Prod.snd
  := by
  induction es generalizing t with
  | nil => cases h
  | cons e es ih =>
    rw [List.map_cons, List.cons_append, t.consumed_cons e.1]
    cases hout : (t.receive e.1 e.2).2.2 with
    | some o' =>
      cases es with
      | nil => rfl
      | cons d es =>
        rw [List.dropLast_cons_of_ne_nil (List.cons_ne_nil d es), follow_cons_some hout, hout]
          at hearly
        cases hearly
    | none =>
      rw [follow_cons_none hout] at h
      have hne : es ≠ [] := by
        rintro rfl
        cases h
      rw [List.dropLast_cons_of_ne_nil hne, follow_cons_none hout] at hearly
      rw [ih hearly h]
      rfl

end Tracker

end Extrinsics
