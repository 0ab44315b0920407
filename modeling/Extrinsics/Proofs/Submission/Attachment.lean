import Extrinsics.Proofs.Submission.Delivery
import Extrinsics.Proofs.Tracking.Run

/-!
# Attached subscriptions

All subscriptions to a call share the feed of the call. Beside the tasks that own them, a
subscriber may ask for updates himself, cancel a subscription or drop it, at any time. Whatever
happens, it changes the ends of the streams in one of five ways (`Executor.Effect`). So the only
stream of a call that has a sending side is the one at its feed, and that one accepts updates; and
the feed counts the subscriptions that have ended.
-/

namespace Extrinsics

/-- The link that a stream makes between a feed and a subscriber, and which of its ends are there. -/
structure Task.Link where
  feed : Nat
  hasSender : Bool
  isActive : Bool

/-- The link that the stream of a task makes. -/
def Task.link (t : Task) : Task.Link := ⟨t.feed, t.stream.hasSender, t.stream.isActive⟩

/-- Whether a task is one of a call, and its subscription has ended. -/
def Task.hasEnded (l : Nat) (t : Task) : Bool := t.feed = l && !t.stream.isActive

namespace Feed

/-- The feed with no stream at it. -/
def release (f : Feed) : Feed := { f with attached := none }

/-- The feed after the stream of a task was attached to it. -/
def attach (i : Nat) (f : Feed) : Feed :=
  { f with attached := some i, submissions := f.submissions + 1 }

/-- The feed after a subscription was cancelled. -/
def cancel (f : Feed) : Feed := { f with attached := none, unsubscribed := f.unsubscribed + 1 }

end Feed

namespace Executor

/-! ### What subscribers do -/

/-- The executor after a subscription was cancelled, by `f`. This empties the feed. -/
def cancelBy (x : Executor) (i : Nat) (f : Subscription → Subscription) : Executor :=
  match x.tasks[i]? with
  | none => x
  | some t =>
    let x := x.modifyTask i fun t => { t with stream := f t.stream }
    if t.stream.isActive then
      (x.modifyFeed t.feed fun f => { f with unsubscribed := f.unsubscribed + 1 }).detach t.feed
    else x

/-- A task cancels its subscription by dropping it. -/
theorem cancel_eq_cancelBy (x : Executor) (i : Nat) :
  x.cancel i = x.cancelBy i Subscription.drop
  := rfl

/-- One thing that happens to an executor, or that a subscriber does with the subscription of a
task. -/
inductive Handling where
  | act (a : Action)
  /-- The subscriber asks for the next update. -/
  | take (i : Nat)
  | unsubscribe (i : Nat)
  /-- The subscriber drops the subscription. -/
  | drop (i : Nat)

/-- The executor after a handling. -/
def handle (x : Executor) : Handling → Executor
  | .act a => x.perform a
  | .take i => x.modifyTask i fun t => { t with stream := t.stream.next.2 }
  | .unsubscribe i => x.cancelBy i Subscription.unsubscribe
  | .drop i => x.cancelBy i Subscription.drop

/-- The executor after handlings that happen one after the other. -/
def handled (client : Client) (hs : List Handling) : Executor := hs.foldl handle (start client)

theorem handled_concat (client : Client) (hs : List Handling) (h : Handling) :
  handled client (hs ++ [h]) = (handled client hs).handle h
  := List.foldl_append

/-- A run of the executor is made of handlings. -/
theorem handled_map_act (client : Client) (as : List Action) :
  handled client (as.map .act) = run client as
  := List.foldl_map

/-- A handling submits a call, and the submission is granted. -/
def Opens (x : Executor) (h : Handling) (l i : Nat) : Prop :=
  ∃ mode callbacks through, h = .act (.submit l mode callbacks through)
    ∧ (x.submit l mode callbacks (through.getD x.client)).2 = .ok i

/-! ### Operations -/

/-- Tasks after the stream of one of them was closed, if one is given. -/
def closeAt (ts : List Task) : Option Nat → List Task
  | some i => ts.modify i Task.close
  | none => ts

theorem getElem?_closeAt (ts : List Task) (o : Option Nat) (j : Nat) :
  (closeAt ts o)[j]? = ts[j]?.map (Task.closeIf (o = some j))
  := by
  cases o with
  | none => simp [closeAt]
  | some i =>
    rw [closeAt, List.getElem?_modify]
    by_cases hij : i = j <;> simp [hij]

theorem length_closeAt (ts : List Task) (o : Option Nat) :
  (closeAt ts o).length = ts.length
  := by
  cases o with
  | none => rfl
  | some i => apply List.length_modify

theorem tasks_detach_eq_closeAt (x : Executor) (l : Nat) :
  (x.detach l).tasks = closeAt x.tasks (x.attached l)
  := by
  rw [tasks_detach]
  cases x.attached l <;> rfl

/-- A subscription takes the place of the one at the feed. -/
theorem subscribe_eq_closeAt (x : Executor) (l : Nat) (p : PreparedCall) (mode : Mode)
    (callbacks : Callbacks) (client : Client) :
  (x.subscribe l p mode callbacks client).1.feeds
      = x.feeds.modify l (Feed.attach x.tasks.length)
    ∧ (x.subscribe l p mode callbacks client).1.tasks
      = closeAt x.tasks (x.attached l) ++ [Task.opening client l p mode callbacks]
  := by
  obtain ⟨queue, hsubscribe⟩ := x.subscribe_eq l p mode callbacks client
  rw [hsubscribe, feeds_detach, tasks_detach_eq_closeAt]
  constructor
  · apply List.modify_modify_eq
  · rfl

/-! ### Effects -/

/-- A way to cancel a subscription: the subscriber goes, and the sending side stays as it is. -/
def Cancels (f : Subscription → Subscription) : Prop :=
  ∀ s, (f s).hasSender = s.hasSender ∧ (f s).isActive = false

theorem cancels_unsubscribe :
  Cancels Subscription.unsubscribe
  := by
  intro s
  rw [Subscription.unsubscribe_eq]
  use rfl

theorem cancels_drop :
  Cancels Subscription.drop
  := by
  intro s
  rw [Subscription.drop, Subscription.unsubscribe_eq]
  use rfl

/-- What a handling may do to the feeds and to the ends of the streams. -/
inductive Effect (x : Executor) (h : Handling) (y : Executor) : Prop where
  /-- It does nothing to them. -/
  | rest (hfeeds : y.feeds = x.feeds) (htasks : y.tasks.map Task.link = x.tasks.map Task.link)
  | prepare (p : PreparedCall) (hfeeds : y.feeds = x.feeds ++ [.ofCall p])
      (htasks : y.tasks = x.tasks)
  | close (l : Nat) (hclose : h = .act (.close l))
      (hfeeds : y.feeds = x.feeds.modify l Feed.release)
      (htasks : y.tasks = closeAt x.tasks (x.attached l))
  /-- A call is submitted. The stream at its feed is closed, and a new one is attached. -/
  | opens (l : Nat) (f : Feed) (t : Task) (hopens : x.Opens h l x.tasks.length)
      (hf : x.feeds[l]? = some f) (hlink : t.link = ⟨l, true, true⟩)
      (hfeeds : y.feeds = x.feeds.modify l (Feed.attach x.tasks.length))
      (htasks : y.tasks = closeAt x.tasks (x.attached l) ++ [t])
  /-- A subscription ends. The stream at the feed of its call is closed. -/
  | ends (i : Nat) (t t' : Task) (ht : x.tasks[i]? = some t) (hactive : t.stream.isActive)
      (hlink : t'.link = { t.link with isActive := false })
      (hfeeds : y.feeds = x.feeds.modify t.feed Feed.cancel)
      (htasks : y.tasks = closeAt (x.tasks.set i t') (x.attached t.feed))

variable {x : Executor} {h : Handling}

/-- A subscription is cancelled when perhaps more has happened to its task. -/
theorem effect_cancelBy_of_link {z : Executor} {i : Nat} {t t' : Task} (ht : x.tasks[i]? = some t)
    (hlink : t'.link = t.link) (hfeeds : z.feeds = x.feeds) (htasks : z.tasks = x.tasks.set i t')
    {f : Subscription → Subscription} (hf : Cancels f) :
  x.Effect h (z.cancelBy i f)
  := by
  obtain ⟨hi, -⟩ := List.getElem?_eq_some_iff.1 ht
  obtain ⟨hfeed, hsender, hactive⟩ := Task.Link.mk.inj hlink
  have ht' : z.tasks[i]? = some t' := by rw [htasks, List.getElem?_set_self hi]
  let y := z.modifyTask i fun t => { t with stream := f t.stream }
  let t'' : Task := { t' with stream := f t'.stream }
  have hy : y.tasks = x.tasks.set i t'' := by
    change z.tasks.modify i _ = _
    rw [modify_of_getElem? ht', htasks, List.set_set]
  rw [cancelBy, ht']
  dsimp only
  split
  · rename_i hrun
    let w := y.modifyFeed t'.feed fun f => { f with unsubscribed := f.unsubscribed + 1 }
    have hattached : w.attached t'.feed = x.attached t.feed := by
      rw [attached_modifyFeed, if_pos rfl, ← hfeed]
      change (z.feeds[t'.feed]?.bind fun g => g.attached) = _
      rw [hfeeds]
      rfl
    apply Effect.ends i t t'' ht (hactive ▸ hrun)
    · rw [Task.link, (hf _).1, (hf _).2, hfeed, hsender]
      rfl
    · change (w.detach t'.feed).feeds = _
      rw [feeds_detach, ← hfeeds, ← hfeed]
      apply List.modify_modify_eq
    · change (w.detach t'.feed).tasks = _
      rw [tasks_detach_eq_closeAt, hattached]
      exact congrArg (closeAt · _) hy
  · rename_i hstopped
    have hkept : t''.link = t.link := by
      rw [← hlink, Task.link, Task.link, (hf _).1, (hf _).2, Bool.eq_false_iff.2 hstopped]
    have hy' : y.tasks.map Task.link = x.tasks.map Task.link := by rw [hy, map_set_of_getElem? ht hkept]
    exact Effect.rest hfeeds hy'

theorem effect_cancelBy (x : Executor) (h : Handling) (i : Nat)
    {f : Subscription → Subscription} (hf : Cancels f) :
  x.Effect h (x.cancelBy i f)
  := by
  cases ht : x.tasks[i]? with
  | none =>
    rw [cancelBy, ht]
    apply Effect.rest rfl rfl
  | some t =>
    obtain ⟨hi, hget⟩ := List.getElem?_eq_some_iff.1 ht
    apply effect_cancelBy_of_link ht rfl rfl _ hf
    rw [← hget, List.set_getElem_self]

/-- A task that stops cancels its subscription. -/
theorem effect_stop {z : Executor} {i : Nat} {t t' : Task} (ht : x.tasks[i]? = some t)
    (hlink : t'.link = t.link) (hfeeds : z.feeds = x.feeds) (htasks : z.tasks = x.tasks.set i t')
    (o : Outcome) :
  x.Effect h (z.stop i o)
  := by
  obtain ⟨hi, -⟩ := List.getElem?_eq_some_iff.1 ht
  have ht' : z.tasks[i]? = some t' := by rw [htasks, List.getElem?_set_self hi]
  let stopped : Task := { t' with outcome := some o }
  have hstopped : stopped.link = t.link := hlink
  let y := z.modifyTask i fun t => { t with outcome := some o }
  have hy : y.tasks = x.tasks.set i stopped := by
    change z.tasks.modify i _ = _
    rw [modify_of_getElem? ht', htasks, List.set_set]
  change x.Effect h (y.cancel i)
  rw [cancel_eq_cancelBy]
  exact effect_cancelBy_of_link (z := y) ht hstopped hfeeds hy cancels_drop

theorem effect_advance (x : Executor) (h : Handling) (now : BitVec 64) (i : Nat) :
  x.Effect h (x.perform (.advance now i))
  := by
  rw [perform, step]
  cases ht : x.tasks[i]? with
  | none => apply Effect.rest rfl rfl
  | some t =>
    dsimp only
    split
    · apply Effect.rest rfl rfl
    · split
      · apply Effect.rest rfl rfl
      · obtain ⟨hi, hget⟩ := List.getElem?_eq_some_iff.1 ht
        apply effect_stop ht rfl rfl
        rw [← hget, List.set_getElem_self]
      · rename_i u stream hnext
        -- The update leaves the queue, and the deeds do not matter for the streams.
        let taken : Task := { t with stream, tracker := (t.tracker.receive now u).2.1 }
        have hlink : taken.link = t.link := by
          have hstream : stream = { t.stream with queue := t.stream.queue.tail } := by
            rw [← Subscription.snd_next, hnext]
          simp only [taken, Task.link, hstream]
        let y := (x.modifyTask i fun s => { s with stream, tracker := taken.tracker }).actAll
          (t.tracker.receive now u).1
        have hfeeds : y.feeds = x.feeds := by
          rw [show y = _ from actAll_eq _ _]
          rfl
        have htasks : y.tasks = x.tasks.set i taken := by
          rw [show y = _ from actAll_eq _ _]
          apply modify_of_getElem? ht
        split
        · apply Effect.rest hfeeds
          rw [htasks, map_set_of_getElem? ht hlink]
        · apply effect_stop ht hlink hfeeds htasks

/-- A granted submission attaches a new stream to the feed of the call. -/
theorem handle_of_opens {l i : Nat} (hopens : x.Opens h l i) :
  i = x.tasks.length ∧ ∃ f t, x.feeds[l]? = some f ∧ t.link = ⟨l, true, true⟩
    ∧ (x.handle h).feeds = x.feeds.modify l (Feed.attach i)
    ∧ (x.handle h).tasks = closeAt x.tasks (x.attached l) ++ [t]
  := by
  obtain ⟨mode, callbacks, through, rfl, hsubmit⟩ := hopens
  obtain ⟨rfl, f, hf, hgrant, -⟩ := submit_ok hsubmit
  let client := through.getD x.client
  obtain ⟨hfeeds, htasks⟩ :=
    (x.counted mode).subscribe_eq_closeAt l f.prepared mode callbacks client
  have hx : x.handle (.act (.submit l mode callbacks through))
      = ((x.counted mode).subscribe l f.prepared mode callbacks client).1 := by
    rw [handle, perform, submit_eq, hf]
    dsimp only
    rw [hgrant]
  rw [hx]
  exact ⟨rfl, f, _, hf, rfl, hfeeds, htasks⟩

theorem effect_submit (x : Executor) (l : Nat) (mode : Mode) (callbacks : Callbacks)
    (through : Option Client) :
  x.Effect (.act (.submit l mode callbacks through))
    (x.handle (.act (.submit l mode callbacks through)))
  := by
  cases hsubmit : (x.submit l mode callbacks (through.getD x.client)).2 with
  | error e =>
    obtain ⟨ds, -, hx⟩ := submit_error hsubmit
    rw [handle, perform, hx]
    exact Effect.rest rfl rfl
  | ok i =>
    have hopens : x.Opens (.act (.submit l mode callbacks through)) l i :=
      ⟨mode, callbacks, through, rfl, hsubmit⟩
    obtain ⟨rfl, f, t, hf, hlink, hfeeds, htasks⟩ := handle_of_opens hopens
    exact Effect.opens l f t hopens hf hlink hfeeds htasks

/-- Every handling has one of the effects. -/
theorem effect_handle (x : Executor) (h : Handling) :
  x.Effect h (x.handle h)
  := by
  cases h with
  | take i =>
    refine Effect.rest rfl (map_modify ?_ x.tasks i)
    intro t
    rw [Task.link, Subscription.snd_next]
    rfl
  | unsubscribe i => apply x.effect_cancelBy _ i cancels_unsubscribe
  | drop i => apply x.effect_cancelBy _ i cancels_drop
  | act a =>
    cases a with
    | prepare p => exact Effect.prepare p rfl rfl
    | arrange queue aside => exact Effect.rest rfl rfl
    | close l => exact Effect.close l rfl (x.feeds_detach l) (x.tasks_detach_eq_closeAt l)
    | submit l mode callbacks through => apply x.effect_submit
    | advance now i => apply x.effect_advance
    | send l u =>
      obtain ⟨queue, hsend⟩ := x.send_eq l u
      have hdeliver (t : Task) : (t.deliver u).link = t.link := by
        rw [Task.deliver, Subscription.send_eq]
        rfl
      rw [handle, perform, hsend]
      cases x.receiver? l with
      | none => exact Effect.rest rfl rfl
      | some i => exact Effect.rest rfl (map_modify hdeliver x.tasks i)

/-! ### Links -/

/-- The link of a task, if the task is there. -/
def linkAt (x : Executor) (k : Nat) : Option Task.Link := x.tasks[k]?.map Task.link

/-- The link of a task once the stream at a feed is closed. -/
def linkAfter (x : Executor) (l k : Nat) : Option Task.Link :=
  (x.linkAt k).map fun e => { e with hasSender := e.hasSender && x.attached l ≠ some k }

/-- The number of subscriptions to a call that have ended. -/
def ended (x : Executor) (l : Nat) : Nat := x.tasks.countP (Task.hasEnded l)

theorem link_closeIf (c : Bool) (t : Task) :
  (t.closeIf c).link = { t.link with hasSender := t.link.hasSender && !c }
  := by
  cases c with
  | false => simp [Task.link]
  | true => simp [Task.link, Task.close, Subscription.close]

theorem map_link_closeAt (x : Executor) (l k : Nat) :
  (closeAt x.tasks (x.attached l))[k]?.map Task.link = x.linkAfter l k
  := by
  rw [getElem?_closeAt, linkAfter, linkAt, Option.map_map, Option.map_map]
  congr 1
  funext t
  simp [link_closeIf]

theorem linkAt_of_rest {y : Executor} (htasks : y.tasks.map Task.link = x.tasks.map Task.link)
    (k : Nat) :
  y.linkAt k = x.linkAt k
  := by rw [linkAt, linkAt, ← List.getElem?_map, htasks, List.getElem?_map]

theorem linkAt_of_close {y : Executor} {l : Nat}
    (htasks : y.tasks = closeAt x.tasks (x.attached l)) (k : Nat) :
  y.linkAt k = x.linkAfter l k
  := by rw [linkAt, htasks, map_link_closeAt]

theorem linkAt_of_opens {y : Executor} {l : Nat} {t : Task} (hlink : t.link = ⟨l, true, true⟩)
    (htasks : y.tasks = closeAt x.tasks (x.attached l) ++ [t]) (k : Nat) :
  y.linkAt k = if k = x.tasks.length then some ⟨l, true, true⟩ else x.linkAfter l k
  := by
  rw [linkAt, htasks, ← map_link_closeAt]
  split
  · rename_i hk
    rw [hk, ← length_closeAt x.tasks (x.attached l), List.getElem?_concat_length,
      Option.map_some, hlink]
  · rename_i hk
    rw [← length_closeAt x.tasks (x.attached l)] at hk
    rw [List.getElem?_append]
    split
    · rfl
    · rename_i hlt
      rw [List.getElem?_eq_none (Nat.not_lt.1 hlt), List.getElem?_eq_none (by simp; omega)]

theorem linkAt_of_ends {y : Executor} {i : Nat} {t t' : Task} (ht : x.tasks[i]? = some t)
    (hlink : t'.link = { t.link with isActive := false })
    (htasks : y.tasks = closeAt (x.tasks.set i t') (x.attached t.feed)) (k : Nat) :
  y.linkAt k = (x.linkAfter t.feed k).map fun e =>
    if i = k then { e with isActive := false } else e
  := by
  obtain ⟨hi, -⟩ := List.getElem?_eq_some_iff.1 ht
  rw [linkAt, htasks, ← map_link_closeAt, getElem?_closeAt, getElem?_closeAt, List.getElem?_set]
  by_cases hik : i = k
  · subst hik
    rw [if_pos rfl, if_pos hi, ht]
    simp [link_closeIf, hlink]
  · rw [if_neg hik]
    simp [hik, Function.comp_def]

/-- Closing a stream ends no subscription. -/
theorem countP_closeAt (ts : List Task) (o : Option Nat) (l : Nat) :
  (closeAt ts o).countP (Task.hasEnded l) = ts.countP (Task.hasEnded l)
  := by
  cases o with
  | none => rfl
  | some i =>
    apply countP_of_map_eq
    apply map_modify
    intro t
    rfl

/-- The streams at the feeds, after the one at a feed has gone. -/
theorem attached_of_modify {y : Executor} {l : Nat} {g : Feed → Feed}
    (hfeeds : y.feeds = x.feeds.modify l g) (hg : ∀ f, (g f).attached = none) (l' : Nat) :
  y.attached l' = if l = l' then none else x.attached l'
  := by
  have hy : y.attached l' = (x.modifyFeed l g).attached l' := by rw [attached, hfeeds]; rfl
  rw [hy, attached_modifyFeed]
  simp [hg]

theorem attached_of_opens {y : Executor} {l i : Nat} {f : Feed} (hf : x.feeds[l]? = some f)
    (hfeeds : y.feeds = x.feeds.modify l (Feed.attach i)) (l' : Nat) :
  y.attached l' = if l = l' then some i else x.attached l'
  := by
  have hy : y.attached l' = (x.modifyFeed l (Feed.attach i)).attached l' := by
    rw [attached, hfeeds]
    rfl
  rw [hy, attached_modifyFeed]
  split
  · rename_i hl
    rw [← hl, hf]
    rfl
  · rfl

/-- The feeds and the streams fit together. The stream at a feed is one of its call and has both
ends, and no other stream has a sending side. A feed counts the ended subscriptions of its call. -/
structure Wired (x : Executor) : Prop where
  attached : ∀ l k, x.attached l = some k → x.linkAt k = some ⟨l, true, true⟩
  sender : ∀ k l a, x.linkAt k = some ⟨l, true, a⟩ → x.attached l = some k
  feed : ∀ k e, x.linkAt k = some e → e.feed < x.feeds.length
  unsubscribed : ∀ l f, x.feeds[l]? = some f → f.unsubscribed = x.ended l

namespace Wired

variable {y : Executor}

theorem start (client : Client) :
  (start client).Wired
  where
  attached := by rintro l k ⟨⟩
  sender := by rintro k l a ⟨⟩
  feed := by rintro k e ⟨⟩
  unsubscribed := by rintro l f ⟨⟩

theorem rest (hx : x.Wired) (hfeeds : y.feeds = x.feeds)
    (htasks : y.tasks.map Task.link = x.tasks.map Task.link) :
  y.Wired
  := by
  have hattached (l : Nat) : y.attached l = x.attached l := by
    rw [Executor.attached, hfeeds, Executor.attached]
  have hlinks := linkAt_of_rest htasks
  have hended (l : Nat) : y.ended l = x.ended l := by
    have hmap := congrArg (List.map fun e : Task.Link => (e.feed = l && !e.isActive : Bool)) htasks
    rw [List.map_map, List.map_map] at hmap
    apply countP_of_map_eq hmap
  constructor
  · simpa only [hattached, hlinks] using hx.attached
  · simpa only [hattached, hlinks] using hx.sender
  · simpa only [hfeeds, hlinks] using hx.feed
  · simpa only [hfeeds, hended] using hx.unsubscribed

theorem prepare (hx : x.Wired) {p : PreparedCall} (hfeeds : y.feeds = x.feeds ++ [.ofCall p])
    (htasks : y.tasks = x.tasks) :
  y.Wired
  := by
  have hlinks := linkAt_of_rest (congrArg (List.map Task.link) htasks)
  have hold {l : Nat} (hl : l < x.feeds.length) : y.feeds[l]? = x.feeds[l]? := by
    rw [hfeeds, List.getElem?_append_left hl]
  have hnew {l : Nat} {f : Feed} (hl : ¬ l < x.feeds.length) (hf : y.feeds[l]? = some f) :
      f = .ofCall p := by
    rw [hfeeds, List.getElem?_append_right (Nat.not_lt.1 hl)] at hf
    apply List.mem_singleton.1 (List.mem_of_getElem? hf)
  constructor
  · intro l k hk
    obtain ⟨f, hf, hk⟩ := Option.bind_eq_some_iff.1 hk
    by_cases hl : l < x.feeds.length
    · rw [hlinks]
      apply hx.attached
      rw [Executor.attached, ← hold hl, hf]
      apply hk
    · rw [hnew hl hf] at hk
      cases hk
  · intro k l a hk
    rw [hlinks] at hk
    rw [Executor.attached, hold (hx.feed k _ hk)]
    apply hx.sender k l a hk
  · intro k e he
    rw [hlinks] at he
    rw [hfeeds, List.length_append]
    apply Nat.lt_add_right _ (hx.feed k e he)
  · intro l f hf
    have hended : y.ended l = x.ended l := by rw [ended, htasks, ended]
    rw [hended]
    by_cases hl : l < x.feeds.length
    · rw [hold hl] at hf
      apply hx.unsubscribed l f hf
    · -- No task has a feed that was not there.
      rw [hnew hl hf]
      apply Eq.symm
      apply List.countP_eq_zero.2
      intro t ht hlink
      obtain ⟨k, hk⟩ := List.mem_iff_getElem?.1 ht
      have hfeed := hx.feed k t.link (by rw [linkAt, hk]; rfl)
      rw [Task.hasEnded, Bool.and_eq_true, decide_eq_true_eq] at hlink
      apply hl (hlink.1 ▸ hfeed)

/-- Closing the stream at a feed leaves the streams at other feeds as they are. -/
theorem linkAfter_of_attached (hx : x.Wired) {l l' k : Nat} (hl : l ≠ l')
    (h : x.attached l' = some k) :
  x.linkAfter l k = some ⟨l', true, true⟩
  := by
  have hne : x.attached l ≠ some k := by
    intro hk
    cases (hx.attached l k hk).symm.trans (hx.attached l' k h)
    exact hl rfl
  rw [linkAfter, hx.attached l' k h, Option.map_some, decide_eq_true hne]
  rfl

/-- No stream of the call has a sending side once the one at the feed is closed. -/
theorem attached_of_linkAfter (hx : x.Wired) {l l' k : Nat} {a : Bool}
    (h : x.linkAfter l k = some ⟨l', true, a⟩) :
  l ≠ l' ∧ x.attached l' = some k
  := by
  obtain ⟨⟨m, s, b⟩, he, hlink⟩ := Option.map_eq_some_iff.1 h
  rw [Task.Link.mk.injEq, Bool.and_eq_true, decide_eq_true_eq] at hlink
  obtain ⟨rfl, ⟨rfl, hne⟩, rfl⟩ := hlink
  have hattached := hx.sender k m b he
  constructor
  · rintro rfl
    exact hne hattached
  · exact hattached

theorem feed_linkAfter (hx : x.Wired) {l k : Nat} {e : Task.Link} (h : x.linkAfter l k = some e) :
  e.feed < x.feeds.length
  := by
  obtain ⟨e', he', rfl⟩ := Option.map_eq_some_iff.1 h
  apply hx.feed k e' he'

theorem close (hx : x.Wired) {l : Nat} (hfeeds : y.feeds = x.feeds.modify l Feed.release)
    (htasks : y.tasks = closeAt x.tasks (x.attached l)) :
  y.Wired
  := by
  have hattached := attached_of_modify hfeeds fun _ => rfl
  have hlinks := linkAt_of_close htasks
  constructor
  · intro l' k hk
    obtain ⟨hl, hk⟩ := Option.ite_none_left_eq_some.1 ((hattached l').symm.trans hk)
    rw [hlinks, hx.linkAfter_of_attached hl hk]
  · intro k l' a hk
    obtain ⟨hl, hk⟩ := hx.attached_of_linkAfter ((hlinks k).symm.trans hk)
    rw [hattached, if_neg hl, hk]
  · intro k e he
    rw [hfeeds, List.length_modify]
    apply hx.feed_linkAfter ((hlinks k).symm.trans he)
  · intro l' f hf
    rw [ended, htasks, countP_closeAt]
    rw [hfeeds, List.getElem?_modify] at hf
    obtain ⟨f', hf', rfl⟩ := Option.map_eq_some_iff.1 hf
    have hcount := hx.unsubscribed l' f' hf'
    split <;> apply hcount

theorem opens (hx : x.Wired) {l : Nat} {f : Feed} {t : Task} (hf : x.feeds[l]? = some f)
    (hlink : t.link = ⟨l, true, true⟩)
    (hfeeds : y.feeds = x.feeds.modify l (Feed.attach x.tasks.length))
    (htasks : y.tasks = closeAt x.tasks (x.attached l) ++ [t]) :
  y.Wired
  := by
  have hattached := attached_of_opens hf hfeeds
  have hlinks := linkAt_of_opens hlink htasks
  constructor
  · intro l' k hk
    rw [hattached] at hk
    rw [hlinks]
    split at hk
    · rename_i hl
      cases hk
      rw [if_pos rfl, hl]
    · rename_i hl
      have hlink' := hx.linkAfter_of_attached hl hk
      rw [if_neg, hlink']
      rintro rfl
      rw [linkAfter, linkAt, List.getElem?_eq_none (Nat.le_refl _)] at hlink'
      cases hlink'
  · intro k l' a hk
    rw [hlinks] at hk
    rw [hattached]
    split at hk
    · rename_i hk'
      cases hk
      rw [if_pos rfl, hk']
    · obtain ⟨hl, hk⟩ := hx.attached_of_linkAfter hk
      rw [if_neg hl, hk]
  · intro k e he
    rw [hfeeds, List.length_modify]
    rw [hlinks] at he
    split at he
    · cases he
      apply (List.getElem?_eq_some_iff.1 hf).1
    · apply hx.feed_linkAfter he
  · intro l' f' hf'
    have hactive : t.hasEnded l' = false := by
      obtain ⟨-, -, hactive⟩ := Task.Link.mk.inj hlink
      rw [Task.hasEnded, hactive, Bool.not_true, Bool.and_false]
    rw [ended, htasks, List.countP_append, countP_closeAt, List.countP_singleton, hactive]
    rw [hfeeds, List.getElem?_modify] at hf'
    obtain ⟨g, hg, rfl⟩ := Option.map_eq_some_iff.1 hf'
    have hcount := hx.unsubscribed l' g hg
    split <;> apply hcount

theorem ends (hx : x.Wired) {i : Nat} {t t' : Task} (ht : x.tasks[i]? = some t)
    (hactive : t.stream.isActive) (hlink : t'.link = { t.link with isActive := false })
    (hfeeds : y.feeds = x.feeds.modify t.feed Feed.cancel)
    (htasks : y.tasks = closeAt (x.tasks.set i t') (x.attached t.feed)) :
  y.Wired
  := by
  obtain ⟨hi, hget⟩ := List.getElem?_eq_some_iff.1 ht
  have hattached := attached_of_modify hfeeds fun _ => rfl
  have hlinks := linkAt_of_ends ht hlink htasks
  constructor
  · intro l k hk
    obtain ⟨hl, hk⟩ := Option.ite_none_left_eq_some.1 ((hattached l).symm.trans hk)
    rw [hlinks, hx.linkAfter_of_attached hl hk, Option.map_some, if_neg]
    rintro rfl
    have hlink' := hx.attached l i hk
    rw [linkAt, ht] at hlink'
    exact hl (Task.Link.mk.inj (Option.some.inj hlink')).1
  · intro k l a hk
    rw [hlinks] at hk
    obtain ⟨⟨m, s, b⟩, he, hlink'⟩ := Option.map_eq_some_iff.1 hk
    have hsame : m = l ∧ s = true := by
      split at hlink' <;> cases hlink' <;> exact ⟨rfl, rfl⟩
    obtain ⟨rfl, rfl⟩ := hsame
    obtain ⟨hl, hk⟩ := hx.attached_of_linkAfter he
    rw [hattached, if_neg hl, hk]
  · intro k e he
    rw [hlinks] at he
    obtain ⟨e', he', rfl⟩ := Option.map_eq_some_iff.1 he
    have hfeed := hx.feed_linkAfter he'
    rw [hfeeds, List.length_modify]
    split <;> apply hfeed
  · intro l f hf
    obtain ⟨hfeed, -, hended⟩ := Task.Link.mk.inj hlink
    have hbefore : t.hasEnded l = false := by
      rw [Task.hasEnded, hactive, Bool.not_true, Bool.and_false]
    have hafter : t'.hasEnded l = decide (t.feed = l) := by
      rw [Task.hasEnded, hended, Bool.not_false, Bool.and_true, hfeed]
      rfl
    rw [ended, htasks, countP_closeAt, List.countP_set hi, hget, hbefore, hafter]
    rw [hfeeds, List.getElem?_modify] at hf
    obtain ⟨g, hg, rfl⟩ := Option.map_eq_some_iff.1 hf
    have hcount := hx.unsubscribed l g hg
    rw [ended] at hcount
    by_cases hl : t.feed = l
    · simp [hl, Feed.cancel, hcount]
    · simp [hl, hcount]

end Wired

/-- Every handling keeps the feeds and the streams together. -/
theorem Effect.wired {y : Executor} (he : x.Effect h y) (hx : x.Wired) :
  y.Wired
  := by
  cases he with
  | rest hfeeds htasks => apply hx.rest hfeeds htasks
  | prepare p hfeeds htasks => apply hx.prepare hfeeds htasks
  | close l hclose hfeeds htasks => apply hx.close hfeeds htasks
  | opens l f t hopens hf hlink hfeeds htasks => apply hx.opens hf hlink hfeeds htasks
  | ends i t t' ht hactive hlink hfeeds htasks =>
    apply hx.ends ht hactive hlink hfeeds htasks

theorem wired_handled (client : Client) (hs : List Handling) :
  (handled client hs).Wired
  := by
  induction hs using List.reverseRecOn with
  | nil => apply Wired.start
  | append_singleton hs h ih =>
    rw [handled_concat]
    apply (effect_handle _ h).wired ih

end Executor

end Extrinsics
