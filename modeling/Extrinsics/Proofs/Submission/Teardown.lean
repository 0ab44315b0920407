import Extrinsics.Proofs.Submission.Attachment

/-!
# Ends of subscriptions

A call can be submitted again while subscriptions to it are active. Each new one takes the place
of the one before at the feed of the call, but the end of any of them empties the feed. So when a
subscription ends while another one is at the feed, it tears that one down with it. Nothing else
takes a subscription from the feed before its time, and none is torn down if a call is submitted
only when all earlier subscriptions to it have ended.
-/

namespace Extrinsics

namespace Executor

/-- Whether a subscription is active. -/
def isActive (x : Executor) (i : Nat) : Bool := x.tasks[i]?.any fun t => t.stream.isActive

/-- A subscription ends in a handling. -/
def Ends (x : Executor) (h : Handling) (i : Nat) : Prop :=
  x.isActive i ∧ ¬ (x.handle h).isActive i

/-- When a subscription ends, nothing happens to the others. -/
def Spares (x : Executor) (h : Handling) : Prop :=
  ∀ i, x.Ends h i → ∀ j, j ≠ i → (x.handle h).tasks[j]? = x.tasks[j]?

/-- A subscription ends while another one is at the feed of the call. -/
def Tears (x : Executor) (h : Handling) : Prop :=
  ∃ i t k, x.Ends h i ∧ x.tasks[i]? = some t ∧ x.attached t.feed = some k ∧ k ≠ i

/-- Updates that are sent through a feed are accepted, and go to the queue of a subscription. -/
def Reaches (x : Executor) (l i : Nat) : Prop :=
  x.isSubscribed l ∧ ∃ t, x.tasks[i]? = some t ∧ ∀ u, (x.send l u).tasks[i]?
    = some { t with stream := { t.stream with queue := t.stream.queue ++ [u] } }

/-- The last subscription to a call, as long as it has not ended and the feed of the call has not
been closed since. -/
inductive IsCurrent (client : Client) : List Handling → Nat → Nat → Prop where
  | opened {hs : List Handling} {h : Handling} {l i : Nat}
      (hopens : (handled client hs).Opens h l i) :
    IsCurrent client (hs ++ [h]) l i
  | kept {hs : List Handling} {h : Handling} {l i : Nat} (hcurrent : IsCurrent client hs l i)
      (hopens : ∀ j, ¬ (handled client hs).Opens h l j) (hclose : h ≠ .act (.close l))
      (hends : ¬ (handled client hs).Ends h i) :
    IsCurrent client (hs ++ [h]) l i

/-- A call is submitted only when all subscriptions to it have ended. -/
def IsOrderly (x : Executor) (h : Handling) : Prop :=
  ∀ l i, x.Opens h l i → ∀ t ∈ x.tasks, t.feed = l → ¬ t.stream.isActive

variable {x : Executor} {h : Handling}

/-! ### Feeds and queues -/

theorem isSubscribed_of_attached (hx : x.Wired) {l i : Nat} (hi : x.attached l = some i) :
  ∃ t, x.tasks[i]? = some t ∧ t.stream.accepts ∧ x.isSubscribed l
  := by
  obtain ⟨t, ht, hlink⟩ := Option.map_eq_some_iff.1 (hx.attached l i hi)
  obtain ⟨-, hsender, hactive⟩ := Task.Link.mk.inj hlink
  have haccepts : t.stream.accepts := by
    rw [Subscription.accepts, hsender, hactive]
    rfl
  use t, ht, haccepts
  rw [isSubscribed_eq, hi, Option.any_some, ht, Option.any_some, haccepts]

/-- The subscription at a feed, and no other one, gets what is sent through the feed. -/
theorem reaches_iff (hx : x.Wired) (l i : Nat) :
  x.Reaches l i ↔ x.attached l = some i
  := by
  constructor
  · rintro ⟨hsubscribed, t, ht, hsend⟩
    rw [isSubscribed_eq] at hsubscribed
    obtain ⟨k, hk, -⟩ := (Option.any_eq_true _ _).1 hsubscribed
    by_contra hne
    -- The update goes to another queue, so the queue stays as it is.
    have hki : k ≠ i := fun hki => hne (hki ▸ hk)
    let u : Update := .ofStatus "" .ready
    obtain ⟨queue, hx'⟩ := x.send_eq l u
    have hkept : (x.send l u).tasks[i]? = some t := by
      rw [hx']
      cases hr : x.receiver? l with
      | none => exact ht
      | some k' =>
        have hk' := (Option.ite_none_right_eq_some.1 hr).2
        cases hk.symm.trans hk'
        rw [getElem?_modify_deliver, if_neg hki, ht]
    have hqueue := congrArg (fun t : Task => t.stream.queue)
      (Option.some.inj ((hsend u).symm.trans hkept))
    simp at hqueue
  · intro hi
    obtain ⟨t, ht, haccepts, hsubscribed⟩ := isSubscribed_of_attached hx hi
    use hsubscribed, t, ht
    intro u
    obtain ⟨queue, hx'⟩ := x.send_eq l u
    have hr : x.receiver? l = some i := by rw [receiver?, if_pos hsubscribed, hi]
    rw [hx', hr, getElem?_modify_deliver, if_pos rfl, ht, Option.map_some, Task.deliver,
      Subscription.send, if_pos haccepts]

/-! ### Ends -/

theorem isActive_eq (x : Executor) (i : Nat) :
  x.isActive i = (x.linkAt i).any fun e => e.isActive
  := by
  rw [isActive, linkAt, Option.any_map]
  rfl

theorem isActive_closeIf (c : Bool) (t : Task) :
  (t.closeIf c).stream.isActive = t.stream.isActive
  := by
  cases c <;> rfl

theorem any_isActive_linkAfter (x : Executor) (l i : Nat) :
  ((x.linkAfter l i).any fun e => e.isActive) = x.isActive i
  := by
  rw [isActive_eq, linkAfter, Option.any_map]

/-- A subscription stays active, or it is the one that ends. -/
theorem Effect.isActive {y : Executor} (he : x.Effect h y) {i : Nat} (hi : x.isActive i) :
  y.isActive i
    ∨ ∃ t t', x.tasks[i]? = some t ∧ y.feeds = x.feeds.modify t.feed Feed.cancel
      ∧ y.tasks = closeAt (x.tasks.set i t') (x.attached t.feed)
  := by
  cases he with
  | rest hfeeds htasks =>
    left
    rwa [isActive_eq, linkAt_of_rest htasks, ← isActive_eq]
  | prepare p hfeeds htasks =>
    left
    rwa [Executor.isActive, htasks]
  | close l hclose hfeeds htasks =>
    left
    rwa [isActive_eq, linkAt_of_close htasks, any_isActive_linkAfter]
  | opens l f t hopens hf hlink hfeeds htasks =>
    left
    rw [isActive_eq, linkAt_of_opens hlink htasks]
    split
    · rfl
    · rwa [any_isActive_linkAfter]
  | ends j t t' ht hactive hlink hfeeds htasks =>
    by_cases hji : j = i
    · right
      subst hji
      use t, t', ht, hfeeds, htasks
    · left
      rw [isActive_eq, linkAt_of_ends ht hlink htasks, Option.any_map]
      simp only [if_neg hji, any_isActive_linkAfter]
      exact hi

/-- When a subscription ends, the feed of its call is emptied, and the stream at the feed is
closed. -/
theorem Ends.handle_eq {i : Nat} (hends : x.Ends h i) :
  ∃ t t', x.tasks[i]? = some t ∧ (x.handle h).feeds = x.feeds.modify t.feed Feed.cancel
    ∧ (x.handle h).tasks = closeAt (x.tasks.set i t') (x.attached t.feed)
  := ((effect_handle x h).isActive hends.1).resolve_left hends.2

theorem Ends.attached {i : Nat} {t : Task} (hends : x.Ends h i) (ht : x.tasks[i]? = some t)
    (l : Nat) :
  (x.handle h).attached l = if t.feed = l then none else x.attached l
  := by
  obtain ⟨s, -, hs, hfeeds, -⟩ := hends.handle_eq
  cases ht.symm.trans hs
  apply attached_of_modify hfeeds fun _ => rfl

theorem Ends.getElem? {i : Nat} {t : Task} (hends : x.Ends h i) (ht : x.tasks[i]? = some t)
    {j : Nat} (hj : j ≠ i) :
  (x.handle h).tasks[j]? = x.tasks[j]?.map (Task.closeIf (x.attached t.feed = some j))
  := by
  obtain ⟨s, s', hs, -, htasks⟩ := hends.handle_eq
  cases ht.symm.trans hs
  rw [htasks, getElem?_closeAt, List.getElem?_set_ne hj.symm]

/-- Only one subscription ends in a handling. -/
theorem Ends.eq {i j : Nat} (hi : x.Ends h i) (hj : x.Ends h j) :
  j = i
  := by
  by_contra hne
  obtain ⟨t, -, ht, -⟩ := hi.handle_eq
  apply hj.2
  rw [isActive, hi.getElem? ht hne, Option.any_map]
  simp only [isActive_closeIf]
  exact hj.1

/-- The other subscriptions are spared exactly if none of them is at the feed. -/
theorem spares_iff (hx : x.Wired) (h : Handling) :
  x.Spares h ↔ ¬ x.Tears h
  := by
  constructor
  · rintro hspares ⟨i, t, k, hends, ht, hk, hki⟩
    obtain ⟨s, hs, hlink⟩ := Option.map_eq_some_iff.1 (hx.attached _ k hk)
    have hsame := hspares i hends k hki
    rw [hends.getElem? ht hki, hs, decide_eq_true hk, Option.map_some] at hsame
    -- The stream at the feed had a sending side, and now it has none.
    have hclosed := congrArg Task.link (Option.some.inj hsame)
    rw [hlink, link_closeIf, hlink] at hclosed
    cases hclosed
  · intro htears i hends j hj
    obtain ⟨t, -, ht, -⟩ := hends.handle_eq
    have hother : ¬ x.attached t.feed = some j := fun hattached =>
      htears ⟨i, t, j, hends, ht, hattached, hj⟩
    rw [hends.getElem? ht hj, decide_eq_false hother, Task.closeIf_false, Option.map_id]
    rfl

/-! ### Streams at feeds -/

theorem Opens.attached {l i : Nat} (hopens : x.Opens h l i) :
  (x.handle h).attached l = some i
  := by
  obtain ⟨-, f, t, hf, -, hfeeds, -⟩ := handle_of_opens hopens
  rw [attached_of_opens hf hfeeds, if_pos rfl]

theorem attached_handle_close (x : Executor) (l : Nat) :
  (x.handle (.act (.close l))).attached l = none
  := by
  have hfeeds : (x.handle (.act (.close l))).feeds = x.feeds.modify l Feed.release :=
    x.feeds_detach l
  rw [attached_of_modify hfeeds (fun _ => rfl), if_pos rfl]

/-- Beside submissions of a call and the closing of its feed, only the end of a subscription to the
call changes what is at the feed. -/
theorem attached_handle (x : Executor) {h : Handling} {l : Nat} (hopens : ∀ j, ¬ x.Opens h l j)
    (hclose : h ≠ .act (.close l)) :
  (x.handle h).attached l = x.attached l
    ∨ ∃ i t, x.Ends h i ∧ x.tasks[i]? = some t ∧ t.feed = l
  := by
  cases effect_handle x h with
  | rest hfeeds htasks =>
    left
    rw [attached, hfeeds, attached]
  | prepare p hfeeds htasks =>
    left
    rw [attached, hfeeds, attached, List.getElem?_append]
    split
    · rfl
    · rename_i hl
      rw [List.getElem?_eq_none (Nat.not_lt.1 hl), List.getElem?_singleton]
      split <;> rfl
  | close l' hclose' hfeeds htasks =>
    left
    rw [attached_of_modify hfeeds (fun _ => rfl), if_neg]
    rintro rfl
    exact hclose hclose'
  | opens l' f t hopens' hf hlink hfeeds htasks =>
    left
    rw [attached_of_opens hf hfeeds, if_neg]
    rintro rfl
    exact hopens _ hopens'
  | ends i t t' ht hactive hlink hfeeds htasks =>
    by_cases hfeed : t.feed = l
    · right
      use i, t
      refine ⟨⟨?_, ?_⟩, ht, hfeed⟩
      · rw [isActive, ht, Option.any_some, hactive]
      · rw [isActive_eq, linkAt_of_ends ht hlink htasks, Option.any_map]
        simp
    · left
      rw [attached_of_modify hfeeds (fun _ => rfl), if_neg hfeed]

theorem not_ends_close (x : Executor) (l i : Nat) :
  ¬ x.Ends (.act (.close l)) i
  := by
  rintro ⟨hactive, hended⟩
  apply hended
  have htasks : (x.handle (.act (.close l))).tasks = closeAt x.tasks (x.attached l) :=
    x.tasks_detach_eq_closeAt l
  rwa [isActive_eq, linkAt_of_close htasks, any_isActive_linkAfter]

theorem Wired.feed_of_attached (hx : x.Wired) {l i : Nat} {t : Task}
    (hi : x.attached l = some i) (ht : x.tasks[i]? = some t) :
  t.feed = l
  := by
  have hlink := hx.attached l i hi
  rw [linkAt, ht] at hlink
  exact (Task.Link.mk.inj (Option.some.inj hlink)).1

/-! ### Runs -/

variable {client : Client} {hs : List Handling} {l i : Nat}

/-- No subscription is torn down by the end of another one. -/
def IsTearless (client : Client) (hs : List Handling) : Prop :=
  ∀ gs h, gs ++ [h] <+: hs → ¬ (handled client gs).Tears h

theorem IsTearless.of_concat (htearless : IsTearless client (hs ++ [h])) :
  IsTearless client hs ∧ ¬ (handled client hs).Tears h
  := by
  constructor
  · intro gs g hgs
    apply htearless gs g (hgs.trans (List.prefix_append hs [h]))
  · apply htearless hs h List.prefix_rfl

/-- What is at a feed is the last subscription to the call. -/
theorem isCurrent_of_attached (hattached : (handled client hs).attached l = some i) :
  IsCurrent client hs l i
  := by
  induction hs using List.reverseRecOn with
  | nil => cases hattached
  | append_singleton hs h ih =>
    rw [handled_concat] at hattached
    by_cases hopened : ∃ j, (handled client hs).Opens h l j
    · obtain ⟨j, hj⟩ := hopened
      cases hj.attached.symm.trans hattached
      exact .opened hj
    · have hopens : ∀ j, ¬ (handled client hs).Opens h l j := not_exists.1 hopened
      have hclose : h ≠ .act (.close l) := by
        rintro rfl
        cases (attached_handle_close _ l).symm.trans hattached
      rcases attached_handle _ hopens hclose with hsame | ⟨j, t, hends, ht, hfeed⟩
      · rw [hsame] at hattached
        refine .kept (ih hattached) hopens hclose ?_
        intro hends
        obtain ⟨t, -, ht, -⟩ := hends.handle_eq
        have hfeed := (wired_handled client hs).feed_of_attached hattached ht
        have hempty := hends.attached ht l
        rw [if_pos hfeed, hsame, hattached] at hempty
        cases hempty
      · rw [hends.attached ht, if_pos hfeed] at hattached
        cases hattached

/-- As long as no subscription is torn down, the last one to a call is at the feed. -/
theorem attached_of_isCurrent (hcurrent : IsCurrent client hs l i)
    (htearless : IsTearless client hs) :
  (handled client hs).attached l = some i
  := by
  induction hcurrent with
  | opened hopens =>
    rw [handled_concat]
    apply hopens.attached
  | @kept hs h l i hcurrent hopens hclose hends ih =>
    obtain ⟨hbefore, htears⟩ := htearless.of_concat
    have hattached := ih hbefore
    rw [handled_concat]
    rcases attached_handle _ hopens hclose with hsame | ⟨j, t, hends', ht, rfl⟩
    · rw [hsame, hattached]
    · exfalso
      apply htears
      refine ⟨j, t, i, hends', ht, hattached, ?_⟩
      rintro rfl
      exact hends hends'

/-- A subscription that is torn down is still the last one to its call. -/
theorem Tears.exists_isCurrent (htears : (handled client hs).Tears h) :
  ∃ l i, IsCurrent client (hs ++ [h]) l i ∧ (handled client (hs ++ [h])).attached l = none
  := by
  obtain ⟨i, t, k, hends, ht, hk, hki⟩ := htears
  have hempty : (handled client (hs ++ [h])).attached t.feed = none := by
    rw [handled_concat, hends.attached ht, if_pos rfl]
  refine ⟨t.feed, k, .kept (isCurrent_of_attached hk) ?_ ?_ ?_, hempty⟩
  · intro j hopens
    rw [handled_concat, hopens.attached] at hempty
    cases hempty
  · rintro rfl
    exact not_ends_close _ _ _ hends
  · intro hends'
    exact hki (hends.eq hends')

/-! ### Orderly submissions -/

/-- At most one subscription to a call is active. -/
def IsSingle (x : Executor) : Prop :=
  ∀ i j l s s', x.linkAt i = some ⟨l, s, true⟩ → x.linkAt j = some ⟨l, s', true⟩ → i = j

/-- An active subscription was active before, or it is new. -/
theorem exists_linkAt (x : Executor) {h : Handling} {s : Bool}
    (hi : (x.handle h).linkAt i = some ⟨l, s, true⟩) :
  (∃ s', x.linkAt i = some ⟨l, s', true⟩) ∨ x.Opens h l i
  := by
  have hafter {l' : Nat} {s : Bool} (hi : x.linkAfter l' i = some ⟨l, s, true⟩) :
      ∃ s', x.linkAt i = some ⟨l, s', true⟩ := by
    obtain ⟨⟨m, s', a⟩, he, hlink⟩ := Option.map_eq_some_iff.1 hi
    cases hlink
    use s'
  cases effect_handle x h with
  | rest hfeeds htasks =>
    left
    rw [linkAt_of_rest htasks] at hi
    use s
  | prepare p hfeeds htasks =>
    left
    rw [linkAt, htasks] at hi
    use s, hi
  | close l' hclose hfeeds htasks =>
    left
    rw [linkAt_of_close htasks] at hi
    apply hafter hi
  | opens l' f t hopens hf hlink hfeeds htasks =>
    rw [linkAt_of_opens hlink htasks] at hi
    split at hi
    · rename_i hlast
      cases hi
      right
      rwa [hlast]
    · left
      apply hafter hi
  | ends j t t' ht hactive hlink hfeeds htasks =>
    left
    rw [linkAt_of_ends ht hlink htasks] at hi
    obtain ⟨⟨m, s', a⟩, he, hsame⟩ := Option.map_eq_some_iff.1 hi
    split at hsame
    · cases hsame
    · cases hsame
      apply hafter he

/-- After an orderly submission the new subscription is the only active one. -/
theorem IsSingle.handle (hx : x.IsSingle) (horderly : x.IsOrderly h) :
  (x.handle h).IsSingle
  := by
  have hnew {i j l : Nat} {s : Bool} (hopens : x.Opens h l i) :
      x.linkAt j ≠ some ⟨l, s, true⟩ := by
    intro hj
    obtain ⟨t, ht, hlink⟩ := Option.map_eq_some_iff.1 hj
    obtain ⟨hfeed, -, hactive⟩ := Task.Link.mk.inj hlink
    apply horderly l i hopens t (List.mem_of_getElem? ht) hfeed hactive
  intro i j l s s' hi hj
  rcases x.exists_linkAt hi with ⟨r, hi⟩ | hi
  · rcases x.exists_linkAt hj with ⟨r', hj⟩ | hj
    · apply hx i j l r r' hi hj
    · exact (hnew hj hi).elim
  · rcases x.exists_linkAt hj with ⟨r', hj⟩ | hj
    · exact (hnew hi hj).elim
    · exact Option.some.inj (hi.attached.symm.trans hj.attached)

/-- While at most one subscription to a call is active, none can be torn down. -/
theorem IsSingle.not_tears (hx : x.IsSingle) (hwired : x.Wired) (h : Handling) :
  ¬ x.Tears h
  := by
  rintro ⟨i, t, k, hends, ht, hk, hki⟩
  have hactive : t.stream.isActive := by
    have := hends.1
    rwa [isActive, ht, Option.any_some] at this
  apply hki
  apply hx k i t.feed true t.stream.hasSender (hwired.attached _ k hk)
  rw [linkAt, ht, Option.map_some, Task.link, hactive]

theorem isSingle_handled
    (horderly : ∀ gs h, gs ++ [h] <+: hs → (handled client gs).IsOrderly h) :
  (handled client hs).IsSingle
  := by
  induction hs using List.reverseRecOn with
  | nil => rintro i j l s s' ⟨⟩
  | append_singleton hs h ih =>
    rw [handled_concat]
    apply IsSingle.handle _ (horderly hs h List.prefix_rfl)
    apply ih
    intro gs g hgs
    apply horderly gs g (hgs.trans (List.prefix_append hs [h]))

/-! ### What subscriptions can rely on -/

/-- Whatever happens to the subscriptions of calls, in any order: a feed counts the subscriptions
to its call that have ended. When one ends, its feed is emptied, and the stream at the feed is
closed; so the other subscriptions are spared exactly if none of them is at the feed. The last
subscription to each call gets what is sent through the feed, until it ends or the feed is closed,
exactly as long as no subscription is torn down by the end of another one. None is torn down when a
call is submitted only if all earlier subscriptions to it have ended. -/
theorem teardown_handled (client : Client) (hs : List Handling) :
  (∀ l f, (handled client hs).feeds[l]? = some f → f.unsubscribed = (handled client hs).ended l)
    ∧ (∀ h i t, (handled client hs).Ends h i → (handled client hs).tasks[i]? = some t →
      ((handled client hs).handle h).attached t.feed = none
        ∧ ∀ j, j ≠ i → ((handled client hs).handle h).tasks[j]?
          = (handled client hs).tasks[j]?.map
            (Task.closeIf ((handled client hs).attached t.feed = some j)))
    ∧ (∀ h, (handled client hs).Spares h ↔ ¬ (handled client hs).Tears h)
    ∧ ((∀ gs, gs <+: hs → ∀ l i, IsCurrent client gs l i → (handled client gs).Reaches l i)
      ↔ IsTearless client hs)
    ∧ ((∀ gs h, gs ++ [h] <+: hs → (handled client gs).IsOrderly h) → IsTearless client hs)
  := by
  have hwired := wired_handled client hs
  refine ⟨hwired.unsubscribed, ?_, spares_iff hwired, ⟨?_, ?_⟩, ?_⟩
  · intro h i t hends ht
    use by rw [hends.attached ht, if_pos rfl]
    intro j hj
    rw [hends.getElem? ht hj]
  · intro hreaches gs h hgs htears
    obtain ⟨l, i, hcurrent, hempty⟩ := htears.exists_isCurrent
    have hattached := (reaches_iff (wired_handled client _) l i).1 (hreaches _ hgs l i hcurrent)
    rw [hempty] at hattached
    cases hattached
  · intro htearless gs hgs l i hcurrent
    apply (reaches_iff (wired_handled client gs) l i).2
    apply attached_of_isCurrent hcurrent
    intro fs h hfs
    apply htearless fs h (hfs.trans hgs)
  · intro horderly gs h hgs
    apply IsSingle.not_tears _ (wired_handled client gs)
    apply isSingle_handled
    intro fs g hfs
    apply horderly fs g (hfs.trans ((List.prefix_append gs [h]).trans hgs))

end Executor

namespace Samples

/-- A transfer is submitted twice. The second subscription takes the place of the first at the
feed, and the task of the first notes that its stream was closed. -/
def resubmittedRun : List Executor.Handling :=
  [.act (.prepare preparedTransfer), .act (.submit 0 .unsigned ⟨none, none, none⟩),
    .act (.submit 0 .unsigned ⟨none, none, none⟩), .act (.advance 1 0)]

/-- A transfer is submitted again after the first subscription to it was cancelled. -/
def resumedRun : List Executor.Handling :=
  [.act (.prepare preparedTransfer), .act (.submit 0 .unsigned ⟨none, none, none⟩),
    .unsubscribe 0, .act (.submit 0 .unsigned ⟨none, none, none⟩)]

end Samples

namespace Executor

open Samples

/-- The end of the first subscription to a call tears down the second one. -/
theorem not_reaches_resubmittedRun :
  IsCurrent Samples.client resubmittedRun 0 1
    ∧ (handled Samples.client resubmittedRun).isActive 1
    ∧ ¬ (handled Samples.client resubmittedRun).Reaches 0 1
  := by
  refine ⟨?_, rfl, ?_⟩
  · have hopened : IsCurrent Samples.client (resubmittedRun.take 2 ++ [resubmittedRun[2]]) 0 1 :=
      .opened ⟨.unsigned, ⟨none, none, none⟩, none, rfl, rfl⟩
    apply IsCurrent.kept (h := .act (.advance 1 0)) hopened
    · rintro j ⟨mode, callbacks, through, hsubmit, -⟩
      cases hsubmit
    · rintro ⟨⟩
    · rintro ⟨-, hended⟩
      exact hended rfl
  · rintro ⟨hsubscribed, -⟩
    cases hsubscribed

theorem teardown_resumedRun :
  (handled Samples.client resumedRun).Reaches 0 1
    ∧ (handled Samples.client resumedRun).ended 0 = 1
  := by
  obtain ⟨hcount, -, -, hiff, horderly⟩ := teardown_handled Samples.client resumedRun
  constructor
  · have hopened : IsCurrent Samples.client (resumedRun.take 3 ++ [resumedRun[3]]) 0 1 :=
      .opened ⟨.unsigned, ⟨none, none, none⟩, none, rfl, rfl⟩
    refine hiff.2 (horderly ?_) resumedRun List.prefix_rfl 0 1 hopened
    rintro gs h ⟨rest, hrun⟩ l i ⟨mode, callbacks, through, rfl, -⟩ t ht - hactive
    rcases gs with _ | ⟨g₁, _ | ⟨g₂, _ | ⟨g₃, _ | ⟨g₄, gs⟩⟩⟩⟩
    · cases hrun
    · cases hrun
      cases ht
    · cases hrun
    · cases hrun
      -- There is one task, and its subscription was cancelled.
      cases List.mem_singleton.1 ht
      cases hactive
    · simp [resumedRun] at hrun
  · rw [← hcount 0 _ rfl]
    rfl

end Executor

end Extrinsics
