import Extrinsics.Proofs.Tracking.Interruption
import Extrinsics.Proofs.Tracking.Tasks

/-!
# Executors side by side

Two executors stand alongside each other when they differ in the tasks of certain feeds, and
perhaps in one more task, whose callbacks all return in the second of them. They stay
alongside each other when the same happens to both, as long as no callback of that task
breaks off. So whatever happens at one feed does not matter for the tasks of the others.
-/

namespace Extrinsics

namespace Tracker

/-- The tracker with callbacks that all return, or as it was. -/
def calmIf (c : Bool) (t : Tracker) : Tracker := if c then t.calm else t

/-- As long as no callback breaks off, it makes no difference that all of them return. -/
theorem receive_calmIf {t : Tracker} {now : BitVec 64} {u : Update}
    (h : (t.receive now u).1.any t.callbacks.breaksOffAt = false) (c : Bool) :
  (t.calmIf c).receive now u
    = ((t.receive now u).1, (t.receive now u).2.1.calmIf c, (t.receive now u).2.2)
  := by
  cases c with
  | false => rfl
  | true =>
    have hcuts := t.receive_calm now u
    have hdone := hcuts.done
    rw [hdone, Callbacks.any_cut] at h
    rw [Callbacks.cut_eq_self _ h] at hdone
    exact Prod.ext hdone.symm (hcuts.unbroken h)

end Tracker

namespace Task

/-- The task with callbacks that all return, or as it was. -/
def calmIf (c : Bool) (t : Task) : Task := { t with tracker := t.tracker.calmIf c }

/-- No callback of the task breaks off in its next step. -/
def Quiet (now : BitVec 64) (t : Task) : Prop :=
  ∀ u, t.upcoming = some u →
    (t.tracker.receive now u).1.any t.tracker.callbacks.breaksOffAt = false

theorem upcoming_of_next {t : Task} {u : Update} {stream : Subscription}
    (hfin : t.isFinished = false) (h : t.stream.next = (.update u, stream)) :
  t.upcoming = some u
  := by
  rw [upcoming, hfin]
  rw [Subscription.next] at h
  cases hqueue : t.stream.queue with
  | nil =>
    rw [hqueue] at h
    dsimp only at h
    split at h <;> cases h
  | cons v rest =>
    rw [hqueue] at h
    cases h
    rfl

theorem receive_calmIf {t : Task} {now : BitVec 64} {u : Update} {c : Bool}
    (hup : t.upcoming = some u) (hquiet : c → t.Quiet now) :
  (t.tracker.calmIf c).receive now u
    = ((t.tracker.receive now u).1, (t.tracker.receive now u).2.1.calmIf c,
      (t.tracker.receive now u).2.2)
  := by
  cases c with
  | false => rfl
  | true => apply Tracker.receive_calmIf (hquiet rfl u hup)

/-- As long as no callback breaks off, a task does the same when all of them return. -/
theorem step_calmIf {t : Task} {now : BitVec 64} {c : Bool} (hquiet : c → t.Quiet now) :
  ((t.calmIf c).step now).map Prod.fst = (t.step now).map Prod.fst
  := by
  rw [step, step, show (t.calmIf c).isFinished = t.isFinished from rfl,
    show (t.calmIf c).stream = t.stream from rfl]
  cases hfin : t.isFinished with
  | true => rfl
  | false =>
    rcases hnext : t.stream.next with ⟨u | _ | _, stream⟩
    · have hreceive := receive_calmIf (upcoming_of_next hfin hnext) hquiet
      exact congrArg (fun r => some r.1) hreceive
    · rfl
    · rfl

end Task

namespace Executor

/-! ### Attached tasks -/

/-- The tasks that are attached to feeds are there, and they are tasks of these feeds. -/
def Rooted (x : Executor) : Prop :=
  ∀ l k, x.attached l = some k → ∃ t, x.tasks[k]? = some t ∧ t.feed = l

namespace Rooted

variable {x : Executor} (hx : x.Rooted)

include hx

theorem modifyTask (k : Nat) {f : Task → Task} (hf : ∀ t, (f t).feed = t.feed) :
  (x.modifyTask k f).Rooted
  := by
  intro l j hj
  obtain ⟨t, ht, hfeed⟩ := hx l j hj
  rw [getElem?_modifyTask, ht]
  split
  · use f t, rfl
    rw [hf, hfeed]
  · use t

theorem modifyFeed (l : Nat) {f : Feed → Feed}
    (hf : ∀ g, (f g).attached = g.attached ∨ (f g).attached = none) :
  (x.modifyFeed l f).Rooted
  := by
  intro l' j hj
  apply hx l' j
  rw [attached_modifyFeed] at hj
  split at hj
  · obtain ⟨g, hg, hj⟩ := Option.bind_eq_some_iff.1 hj
    rw [attached, hg, ← hj]
    rcases hf g with hsame | hnone
    · apply hsame.symm
    · cases hnone.symm.trans hj
  · apply hj

/-- A task may be attached to its feed. -/
theorem attach {k l : Nat} {t : Task} (ht : x.tasks[k]? = some t) (hfeed : t.feed = l)
    {f : Feed → Feed} (hf : ∀ g, (f g).attached = some k) :
  (x.modifyFeed l f).Rooted
  := by
  intro l' j hj
  rw [attached_modifyFeed] at hj
  split at hj
  · rename_i hll'
    obtain ⟨g, -, hj⟩ := Option.bind_eq_some_iff.1 hj
    cases (hf g).symm.trans hj
    use t, ht
    rw [hfeed, hll']
  · apply hx l' j hj

theorem prepare (p : PreparedCall) :
  (x.prepare p).1.Rooted
  := by
  intro l k hk
  apply hx l k
  obtain ⟨g, hg, hk⟩ := Option.bind_eq_some_iff.1 hk
  rw [Executor.prepare] at hg
  rcases Nat.lt_or_ge l x.feeds.length with hl | hl
  · rw [List.getElem?_append_left hl] at hg
    rw [attached, hg]
    apply hk
  · rw [List.getElem?_append_right hl] at hg
    cases List.mem_singleton.1 (List.mem_of_getElem? hg)
    cases hk

theorem append (t : Task) :
  { x with tasks := x.tasks ++ [t] }.Rooted
  := by
  intro l k hk
  obtain ⟨s, hs, hfeed⟩ := hx l k hk
  obtain ⟨hlength, -⟩ := List.getElem?_eq_some_iff.1 hs
  use s
  rw [List.getElem?_append_left hlength]
  use hs

end Rooted

/-- Two executors that differ in the tasks of the feeds with `P`, and in the callbacks of the
task `i`, which all return in the second executor. -/
structure Alongside (P : Nat → Prop) (i : Option Nat) (x y : Executor) : Prop where
  rooted : x.Rooted
  rooted' : y.Rooted
  client : y.client = x.client
  prepared : y.feeds.map Feed.prepared = x.feeds.map Feed.prepared
  feeds : ∀ l : Nat, ¬ P l → y.feeds[l]? = x.feeds[l]?
  present : ∀ k, i = some k → k < x.tasks.length
  length : y.tasks.length = x.tasks.length
  tasks : ∀ (k : Nat) s s', x.tasks[k]? = some s → y.tasks[k]? = some s' →
    s'.feed = s.feed ∧ (¬ P s.feed → s' = s.calmIf (i = some k))

namespace Alongside

variable {P : Nat → Prop} {i : Option Nat} {x x' y y' : Executor}

theorem refl (hx : x.Rooted) :
  Alongside P none x x
  where
  rooted := hx
  rooted' := hx
  client := rfl
  prepared := rfl
  feeds := fun _ _ => rfl
  present := by
    rintro k ⟨⟩
  length := rfl
  tasks := by
    intro k s s' hs hs'
    cases hs.symm.trans hs'
    exact ⟨rfl, fun _ => rfl⟩

theorem task_of_some (h : Alongside P i x y) {k : Nat} {s : Task} (hs : x.tasks[k]? = some s) :
  ∃ s', y.tasks[k]? = some s' ∧ s'.feed = s.feed
    ∧ (¬ P s.feed → s' = s.calmIf (i = some k))
  := by
  obtain ⟨hk, -⟩ := List.getElem?_eq_some_iff.1 hs
  have hs' := List.getElem?_eq_getElem (h.length ▸ hk)
  exact ⟨_, hs', h.tasks k s _ hs hs'⟩

/-- The executors know the same calls. -/
theorem feed_of_some (h : Alongside P i x y) {l : Nat} {f : Feed} (hf : x.feeds[l]? = some f) :
  ∃ f', y.feeds[l]? = some f' ∧ f'.prepared = f.prepared
  := by
  have hmap : (y.feeds.map Feed.prepared)[l]? = some f.prepared := by
    rw [h.prepared, List.getElem?_map, hf]
    rfl
  rw [List.getElem?_map] at hmap
  apply Option.map_eq_some_iff.1 hmap

theorem feed_of_none (h : Alongside P i x y) {l : Nat} (hf : x.feeds[l]? = none) :
  y.feeds[l]? = none
  := by
  have hlength := congrArg List.length h.prepared
  rw [List.length_map, List.length_map] at hlength
  rw [List.getElem?_eq_none_iff] at hf ⊢
  rwa [hlength]

theorem task_of_none (h : Alongside P i x y) {k : Nat} (hs : x.tasks[k]? = none) :
  y.tasks[k]? = none
  := by
  rw [List.getElem?_eq_none_iff] at hs ⊢
  rwa [h.length]

/-- What happens within the feeds with `P` does not matter. -/
theorem comp (h : Alongside P i x y) (hx : Alongside P none x x') (hy : Alongside P none y y') :
  Alongside P i x' y'
  where
  rooted := hx.rooted'
  rooted' := hy.rooted'
  client := by rw [hy.client, h.client, hx.client]
  prepared := by rw [hy.prepared, h.prepared, hx.prepared]
  feeds := fun l hl => by rw [hy.feeds l hl, h.feeds l hl, hx.feeds l hl]
  present := by
    intro k hk
    rw [hx.length]
    apply h.present k hk
  length := by rw [hy.length, h.length, hx.length]
  tasks := by
    intro k s s' hs hs'
    obtain ⟨hk, -⟩ := List.getElem?_eq_some_iff.1 hs
    have hr := List.getElem?_eq_getElem (hx.length ▸ hk)
    obtain ⟨hfeed, hsame⟩ := hx.tasks k _ s hr hs
    obtain ⟨r', hr', hfeed', hsame'⟩ := h.task_of_some hr
    obtain ⟨hfeed'', hsame''⟩ := hy.tasks k r' s' hr' hs'
    rw [hfeed'', hfeed', hfeed]
    use rfl
    intro hP
    rw [hsame'' (by rwa [hfeed']), hsame' hP, hsame hP]
    rfl

/-! ### Single changes -/

/-- Queue, store and deeds do not matter. -/
theorem congr (h : Alongside P i x y)
    (hx : x'.client = x.client ∧ x'.feeds = x.feeds ∧ x'.tasks = x.tasks)
    (hy : y'.client = y.client ∧ y'.feeds = y.feeds ∧ y'.tasks = y.tasks) :
  Alongside P i x' y'
  := by
  cases x'
  cases y'
  obtain ⟨rfl, rfl, rfl⟩ := hx
  obtain ⟨rfl, rfl, rfl⟩ := hy
  exact ⟨h.rooted, h.rooted', h.client, h.prepared, h.feeds, h.present, h.length, h.tasks⟩

theorem wake (h : Alongside P i x y) (k : Nat) :
  Alongside P i (x.wake k) (y.wake k)
  := by
  obtain ⟨queue, hx⟩ := x.wake_eq k
  obtain ⟨queue', hy⟩ := y.wake_eq k
  apply h.congr
  · simp [hx]
  · simp [hy]

theorem actAll (h : Alongside P i x y) (ds ds' : List Deed) :
  Alongside P i (x.actAll ds) (y.actAll ds')
  := by
  apply h.congr
  · simp [actAll_eq]
  · simp [actAll_eq]

theorem modifyTasks (h : Alongside P i x y) {k : Nat} {f f' : Task → Task}
    (hf : ∀ t, (f t).feed = t.feed) (hf' : ∀ t, (f' t).feed = t.feed)
    (hsame : ∀ s, x.tasks[k]? = some s → ¬ P s.feed →
      f' (s.calmIf (i = some k)) = (f s).calmIf (i = some k)) :
  Alongside P i (x.modifyTask k f) (y.modifyTask k f')
  where
  rooted := h.rooted.modifyTask k hf
  rooted' := h.rooted'.modifyTask k hf'
  client := h.client
  prepared := h.prepared
  feeds := h.feeds
  present := by
    intro j hj
    rw [Executor.modifyTask, List.length_modify]
    apply h.present j hj
  length := by
    rw [Executor.modifyTask, Executor.modifyTask, List.length_modify, List.length_modify, h.length]
  tasks := by
    intro j s s' hs hs'
    rw [getElem?_modifyTask] at hs hs'
    by_cases hkj : k = j
    · subst hkj
      rw [if_pos rfl] at hs hs'
      obtain ⟨r, hr, rfl⟩ := Option.map_eq_some_iff.1 hs
      obtain ⟨r', hr', rfl⟩ := Option.map_eq_some_iff.1 hs'
      obtain ⟨hfeed, htask⟩ := h.tasks k r r' hr hr'
      rw [hf, hf']
      use hfeed
      intro hP
      rw [htask hP, hsame r hr hP]
    · rw [if_neg hkj] at hs hs'
      apply h.tasks j s s' hs hs'

theorem modifyFeeds (h : Alongside P i x y) {l : Nat} {f f' : Feed → Feed}
    (hf : ∀ g, (f g).prepared = g.prepared)
    (hf' : ∀ g, (f' g).prepared = g.prepared)
    (hsame : ¬ P l → f' = f) (hx : (x.modifyFeed l f).Rooted) (hy : (y.modifyFeed l f').Rooted) :
  Alongside P i (x.modifyFeed l f) (y.modifyFeed l f')
  where
  rooted := hx
  rooted' := hy
  client := h.client
  prepared := by rw [prepared_modifyFeed hf, prepared_modifyFeed hf', h.prepared]
  feeds := by
    intro l' hl'
    rw [Executor.modifyFeed, Executor.modifyFeed, List.getElem?_modify, List.getElem?_modify,
      h.feeds l' hl']
    by_cases hll' : l = l'
    · rw [hsame (hll' ▸ hl')]
    · simp [hll']
  present := h.present
  length := h.length
  tasks := h.tasks

/-- A task changes in both executors, and its callbacks do not matter for the change. -/
theorem modifyTask (h : Alongside P i x y) (k : Nat) {f : Task → Task}
    (hf : ∀ t, (f t).feed = t.feed) (hcalm : ∀ c t, f (Task.calmIf c t) = (f t).calmIf c) :
  Alongside P i (x.modifyTask k f) (y.modifyTask k f)
  := by
  apply h.modifyTasks hf hf
  intro s _ _
  apply hcalm

/-- A feed changes in both executors, and lets go of its task or not. -/
theorem modifyFeed (h : Alongside P i x y) (l : Nat) {f : Feed → Feed}
    (hf : ∀ g, (f g).prepared = g.prepared)
    (hattached : ∀ g, (f g).attached = g.attached ∨ (f g).attached = none) :
  Alongside P i (x.modifyFeed l f) (y.modifyFeed l f)
  := by
  apply h.modifyFeeds hf hf
  · intro _
    rfl
  · apply h.rooted.modifyFeed l hattached
  · apply h.rooted'.modifyFeed l hattached

theorem closeStream (h : Alongside P i x y) (k : Nat) :
  Alongside P i (x.closeStream k) (y.closeStream k)
  := by
  apply Alongside.wake
  apply h.modifyTask
  · intro t
    rfl
  · intro c t
    rfl

/-! ### What happens at a feed with `P` -/

theorem trans {z : Executor} (h : Alongside P none x y) (h' : Alongside P none y z) :
  Alongside P none x z
  := h.comp (refl h.rooted) h'

/-- A task changes whose feed does not matter. -/
theorem within_modifyTask (hx : x.Rooted) {k : Nat} {t : Task} (ht : x.tasks[k]? = some t)
    (hP : P t.feed) {f : Task → Task} (hf : ∀ t, (f t).feed = t.feed) :
  Alongside P none x (x.modifyTask k f)
  := by
  have h := (refl (P := P) hx).modifyTasks (k := k) (f := id) (fun _ => rfl) hf
  rw [Executor.modifyTask, List.modify_id] at h
  apply h
  intro s hs hs'
  cases ht.symm.trans hs
  exact (hs' hP).elim

/-- A feed changes that does not matter. -/
theorem within_modifyFeed (hx : x.Rooted) {l : Nat} (hl : P l) {f : Feed → Feed}
    (hf : ∀ g, (f g).prepared = g.prepared)
    (hattached : ∀ g, (f g).attached = g.attached ∨ (f g).attached = none) :
  Alongside P none x (x.modifyFeed l f)
  := by
  have h := (refl (P := P) hx).modifyFeeds (l := l) (f := id) (fun _ => rfl) hf
    (fun hl' => (hl' hl).elim)
  rw [Executor.modifyFeed, List.modify_id] at h
  exact h hx (hx.modifyFeed l hattached)

theorem within_actAll (hx : x.Rooted) (ds : List Deed) :
  Alongside P none x (x.actAll ds)
  := (refl hx).actAll [] ds

theorem within_wake (hx : x.Rooted) (k : Nat) :
  Alongside P none x (x.wake k)
  := by
  obtain ⟨queue, hwake⟩ := x.wake_eq k
  apply (refl hx).congr
  · simp
  · simp [hwake]

theorem within_detach (hx : x.Rooted) {l : Nat} (hl : P l) :
  Alongside P none x (x.detach l)
  := by
  have hroot := hx l
  rw [attached] at hroot
  rw [detach]
  rcases hf : x.feeds[l]? with _ | ⟨p, _ | k, n, m⟩
  · apply refl hx
  · apply refl hx
  · rw [hf] at hroot
    obtain ⟨t, ht, hfeed⟩ := hroot k rfl
    have hfreed := within_modifyFeed hx hl (f := fun f => { f with attached := none })
      (fun _ => rfl) (fun _ => .inr rfl)
    have hclosed := within_modifyTask hfreed.rooted' ht (hfeed ▸ hl) (f := Task.close)
      (fun _ => rfl)
    apply (hfreed.trans hclosed).trans
    apply within_wake hclosed.rooted'

theorem within_cancel (hx : x.Rooted) {k : Nat} {t : Task} (ht : x.tasks[k]? = some t)
    (hP : P t.feed) :
  Alongside P none x (x.cancel k)
  := by
  have hdrop := within_modifyTask hx ht hP (f := fun t => { t with stream := t.stream.drop })
    (fun _ => rfl)
  rw [cancel, ht]
  dsimp only
  split
  · have hcount := within_modifyFeed hdrop.rooted' hP
      (f := fun f => { f with unsubscribed := f.unsubscribed + 1 }) (fun _ => rfl)
      (fun _ => .inl rfl)
    apply (hdrop.trans hcount).trans
    apply within_detach hcount.rooted' hP
  · apply hdrop

theorem within_stop (hx : x.Rooted) {k : Nat} {t : Task} (ht : x.tasks[k]? = some t)
    (hP : P t.feed) (o : Outcome) :
  Alongside P none x (x.stop k o)
  := by
  have hout := within_modifyTask hx ht hP (f := fun t => { t with outcome := some o })
    (fun _ => rfl)
  obtain ⟨t', ht', hfeed, -⟩ := hout.task_of_some ht
  apply hout.trans
  apply within_cancel hout.rooted' ht' (hfeed ▸ hP)

/-- A step of a task whose feed does not matter. -/
theorem within_advance (hx : x.Rooted) {k : Nat} {t : Task} (ht : x.tasks[k]? = some t)
    (hP : P t.feed) (now : BitVec 64) :
  Alongside P none x (x.perform (.advance now k))
  := by
  rw [perform, step, ht]
  dsimp only
  split
  · apply refl hx
  · split
    · apply refl hx
    · apply within_stop hx ht hP
    · rename_i u stream _
      have htaken := within_modifyTask hx ht hP
        (f := fun t' => { t' with stream, tracker := (t.tracker.receive now u).2.1 })
        (fun _ => rfl)
      have hacted := htaken.trans (within_actAll htaken.rooted' (t.tracker.receive now u).1)
      split
      · apply hacted
      · obtain ⟨t', ht', hfeed, -⟩ := hacted.task_of_some ht
        apply hacted.trans
        apply within_stop hacted.rooted' ht' (hfeed ▸ hP)

/-! ### What happens to both -/

/-- Both feeds let go of their streams. -/
theorem detach (h : Alongside P i x y) (l : Nat) :
  Alongside P i (x.detach l) (y.detach l)
  := by
  by_cases hl : P l
  · apply h.comp (within_detach h.rooted hl) (within_detach h.rooted' hl)
  · rw [Executor.detach, Executor.detach, h.feeds l hl]
    rcases x.feeds[l]? with _ | ⟨p, _ | k, n, m⟩
    · apply h
    · apply h
    · apply Alongside.closeStream
      apply h.modifyFeed
      · intro g
        rfl
      · intro g
        right
        rfl

section

variable {k : Nat} {t : Task} (h : Alongside P i x y) (ht : x.tasks[k]? = some t)
  (hP : ¬ P t.feed)

include h ht hP

theorem cancel :
  Alongside P i (x.cancel k) (y.cancel k)
  := by
  obtain ⟨t', ht', hfeed, hsame⟩ := h.task_of_some ht
  have hstream : t'.stream = t.stream := by
    rw [hsame hP]
    rfl
  have hdrop := h.modifyTask k (f := fun t => { t with stream := t.stream.drop }) (fun _ => rfl)
    fun _ _ => rfl
  rw [Executor.cancel, Executor.cancel, ht, ht']
  dsimp only
  rw [hfeed, hstream]
  split
  · apply Alongside.detach
    apply hdrop.modifyFeed
    · intro g
      rfl
    · intro g
      left
      rfl
  · apply hdrop

theorem stop (o : Outcome) :
  Alongside P i (x.stop k o) (y.stop k o)
  := by
  have hout := h.modifyTask k (f := fun t => { t with outcome := some o }) (fun _ => rfl)
    fun _ _ => rfl
  have ht' : (x.modifyTask k fun t => { t with outcome := some o }).tasks[k]?
      = some { t with outcome := some o } := by
    rw [getElem?_modifyTask, if_pos rfl, ht]
    rfl
  apply hout.cancel ht' hP

/-- The task makes a step in which no callback breaks off, unless it does not matter. -/
theorem advance (now : BitVec 64) (hquiet : i = some k → t.Quiet now) :
  Alongside P i (x.perform (.advance now k)) (y.perform (.advance now k))
  := by
  obtain ⟨t', ht', -, hsame⟩ := h.task_of_some ht
  have hcalm := hsame hP
  subst hcalm
  have habandon : ((t.calmIf (i = some k)).tracker.abandon) = t.tracker.abandon := by
    rw [Task.calmIf]
    cases decide (i = some k) <;> rfl
  rw [perform, perform, step, step, ht, ht']
  dsimp only
  rw [habandon, show (t.calmIf (i = some k)).isFinished = t.isFinished from rfl,
    show (t.calmIf (i = some k)).stream = t.stream from rfl]
  cases hfin : t.isFinished with
  | true => apply h
  | false =>
    simp only [Bool.false_eq_true, if_false]
    rcases hnext : t.stream.next with ⟨u | _ | _, stream⟩
    · have hreceive := Task.receive_calmIf (c := i = some k) (Task.upcoming_of_next hfin hnext)
        fun hi => hquiet (of_decide_eq_true hi)
      have htaken : Alongside P i
          (x.modifyTask k fun s =>
            { s with stream, tracker := (t.tracker.receive now u).2.1 })
          (y.modifyTask k fun s =>
            { s with stream, tracker := (t.tracker.receive now u).2.1.calmIf (i = some k) }) := by
        apply h.modifyTasks
        · intro s
          rfl
        · intro s
          rfl
        · intro s _ _
          rfl
      have hacted := htaken.actAll (t.tracker.receive now u).1 (t.tracker.receive now u).1
      simp only [Task.calmIf, hreceive]
      cases (t.tracker.receive now u).2.2 with
      | none => apply hacted
      | some o =>
        apply hacted.stop (t := { t with stream, tracker := (t.tracker.receive now u).2.1 }) _ hP
        rw [actAll_eq, getElem?_modifyTask, if_pos rfl, ht]
        rfl
    · apply h
    · apply h.stop ht hP

end

/-! ### Sending and submission -/

/-- An update that is sent through a feed reaches the same task. -/
theorem receiver?_eq (h : Alongside P i x y) {l : Nat} (hl : ¬ P l) :
  y.receiver? l = x.receiver? l
  := by
  have hattached : y.attached l = x.attached l := by
    rw [attached, attached, h.feeds l hl]
  rw [receiver?, receiver?, isSubscribed_eq, isSubscribed_eq, hattached]
  cases hk : x.attached l with
  | none => rfl
  | some k =>
    obtain ⟨t, ht, hfeed⟩ := h.rooted l k hk
    obtain ⟨t', ht', -, hsame⟩ := h.task_of_some ht
    rw [Option.any_some, Option.any_some, ht, ht', hsame (hfeed ▸ hl)]
    rfl

theorem within_send (hx : x.Rooted) {l : Nat} (hl : P l) (u : Update) :
  Alongside P none x (x.send l u)
  := by
  obtain ⟨queue, hsend⟩ := x.send_eq l u
  rw [hsend]
  cases hr : x.receiver? l with
  | none => exact (refl hx).congr ⟨rfl, rfl, rfl⟩ ⟨rfl, rfl, rfl⟩
  | some k =>
    have hattached := (Option.ite_none_right_eq_some.1 hr).2
    obtain ⟨t, ht, hfeed⟩ := hx l k hattached
    have hdelivered := within_modifyTask hx ht (hfeed ▸ hl) (f := Task.deliver u) fun _ => rfl
    exact hdelivered.congr ⟨rfl, rfl, rfl⟩ ⟨rfl, rfl, rfl⟩

theorem send (h : Alongside P i x y) (l : Nat) (u : Update) :
  Alongside P i (x.send l u) (y.send l u)
  := by
  by_cases hl : P l
  · apply h.comp (within_send h.rooted hl u) (within_send h.rooted' hl u)
  · obtain ⟨queue, hx⟩ := x.send_eq l u
    obtain ⟨queue', hy⟩ := y.send_eq l u
    rw [hx, hy, h.receiver?_eq hl]
    cases x.receiver? l with
    | none => exact h.congr ⟨rfl, rfl, rfl⟩ ⟨rfl, rfl, rfl⟩
    | some k =>
      have hdelivered := h.modifyTask k (f := Task.deliver u) (fun _ => rfl) fun _ _ => rfl
      exact hdelivered.congr ⟨rfl, rfl, rfl⟩ ⟨rfl, rfl, rfl⟩

/-- Both executors get a task more. It may be the one whose callbacks differ. -/
theorem append (h : Alongside P i x y) {i' : Option Nat} {s s' : Task}
    (hi : ∀ k < x.tasks.length, i' = some k ↔ i = some k)
    (hpresent : ∀ k, i' = some k → k ≤ x.tasks.length) (hfeed : s'.feed = s.feed)
    (hsame : ¬ P s.feed → s' = s.calmIf (i' = some x.tasks.length)) :
  Alongside P i' { x with tasks := x.tasks ++ [s] } { y with tasks := y.tasks ++ [s'] }
  where
  rooted := h.rooted.append s
  rooted' := h.rooted'.append s'
  client := h.client
  prepared := h.prepared
  feeds := h.feeds
  present := by
    intro k hk
    rw [List.length_append, List.length_singleton]
    have := hpresent k hk
    omega
  length := by
    rw [List.length_append, List.length_append, List.length_singleton, List.length_singleton,
      h.length]
  tasks := by
    intro k r r' hr hr'
    rcases Nat.lt_trichotomy k x.tasks.length with hk | hk | hk
    · rw [List.getElem?_append_left hk] at hr
      rw [List.getElem?_append_left (h.length ▸ hk)] at hr'
      obtain ⟨hfeed', hsame'⟩ := h.tasks k r r' hr hr'
      use hfeed'
      rwa [decide_eq_decide.2 (hi k hk)]
    · subst hk
      rw [List.getElem?_concat_length] at hr
      rw [← h.length, List.getElem?_concat_length] at hr'
      cases hr
      cases hr'
      use hfeed, hsame
    · rw [List.getElem?_eq_none (by simp; omega)] at hr
      cases hr

/-- A subscription in both executors. Its task may be the one whose callbacks differ. -/
theorem subscribe (h : Alongside P i x y) {i' : Option Nat}
    (hi : ∀ k < x.tasks.length, i' = some k ↔ i = some k)
    (hpresent : ∀ k, i' = some k → k ≤ x.tasks.length) {l : Nat} {c c' : Callbacks}
    (hsame : ¬ P l → c' = if i' = some x.tasks.length then c.calm else c) (p : PreparedCall)
    (mode : Mode) (client : Client) :
  Alongside P i' (x.subscribe l p mode c client).1 (y.subscribe l p mode c' client).1
  := by
  have hstream := foldl_send p.script (s := Subscription.start) rfl
  have hlength := length_detach x l
  have htask : ¬ P l → Task.opening client l p mode c'
      = (Task.opening client l p mode c).calmIf (i' = some x.tasks.length) := by
    intro hP
    rw [hsame hP]
    by_cases hnew : i' = some x.tasks.length
    · rw [if_pos hnew, decide_eq_true hnew]
      rfl
    · rw [if_neg hnew, decide_eq_false hnew]
      rfl
  rw [← hlength] at hi hpresent htask
  have hfeed : (Task.opening client l p mode c').feed
      = (Task.opening client l p mode c).feed := rfl
  have hjoined := (h.detach l).append hi hpresent hfeed htask
  rw [Executor.subscribe, Executor.subscribe, hstream, h.length]
  apply Alongside.wake
  apply hjoined.modifyFeeds
  · intro g
    rfl
  · intro g
    rfl
  · intro _
    rfl
  · apply hjoined.rooted.attach (t := Task.opening client l p mode c) _ rfl fun _ => rfl
    simp [hlength]
  · apply hjoined.rooted'.attach (t := Task.opening client l p mode c') _ rfl fun _ => rfl
    simp [h.length, length_detach]

/-- Both submissions are granted, or both are refused for the same reason. -/
theorem submit_snd (h : Alongside P i x y) (l : Nat) (mode : Mode) (c c' : Callbacks)
    (client : Client) :
  (y.submit l mode c' client).2 = (x.submit l mode c client).2
  := by
  rw [submit_eq, submit_eq]
  cases hf : x.feeds[l]? with
  | none => rw [h.feed_of_none hf]
  | some f =>
    obtain ⟨f', hf', hsame⟩ := h.feed_of_some hf
    simp only [hf', hsame]
    cases mode.grant f.prepared with
    | error e => rfl
    | ok _ => exact congrArg Except.ok h.length

/-- A submission is refused by both executors. -/
theorem refuse (h : Alongside P i x y) {l : Nat} {mode : Mode} {c : Callbacks} {client : Client}
    {e : SubmissionError} (herror : (x.submit l mode c client).2 = .error e) (c' : Callbacks) :
  Alongside P i (x.submit l mode c client).1 (y.submit l mode c' client).1
  := by
  have herror' := h.submit_snd l mode c c' client
  rw [herror] at herror'
  obtain ⟨ds, -, hx⟩ := submit_error herror
  obtain ⟨ds', -, hy⟩ := submit_error herror'
  rw [hx, hy]
  exact h.congr ⟨rfl, rfl, rfl⟩ ⟨rfl, rfl, rfl⟩

/-- A submission is granted by both executors. Its task may be the one whose callbacks
differ. -/
theorem grant (h : Alongside P i x y) {l j : Nat} {mode : Mode} {c c' : Callbacks}
    {client : Client} (hok : (x.submit l mode c client).2 = .ok j) {i' : Option Nat}
    (hi : ∀ k < x.tasks.length, i' = some k ↔ i = some k)
    (hpresent : ∀ k, i' = some k → k ≤ x.tasks.length)
    (hsame : ¬ P l → c' = if i' = some x.tasks.length then c.calm else c) :
  Alongside P i' (x.submit l mode c client).1 (y.submit l mode c' client).1
  := by
  have hcounted : Alongside P i (x.counted mode) (y.counted mode) :=
    h.congr ⟨rfl, rfl, rfl⟩ ⟨rfl, rfl, rfl⟩
  obtain ⟨-, f, hf, hgrant, -⟩ := submit_ok hok
  obtain ⟨f', hf', hf''⟩ := h.feed_of_some hf
  rw [submit_eq, submit_eq]
  simp only [hf, hf', hf'', hgrant]
  apply hcounted.subscribe hi hpresent hsame

theorem submit (h : Alongside P i x y) (l : Nat) (mode : Mode) (c : Callbacks)
    (client : Client) :
  Alongside P i (x.submit l mode c client).1 (y.submit l mode c client).1
  := by
  cases hsubmit : (x.submit l mode c client).2 with
  | error e => apply h.refuse hsubmit
  | ok j =>
    apply h.grant hsubmit
    · intro k _
      rfl
    · intro k hk
      apply (h.present k hk).le
    · intro _
      rw [if_neg]
      intro hnew
      apply (h.present _ hnew).ne rfl

/-! ### Actions -/

theorem prepare (h : Alongside P i x y) (p : PreparedCall) :
  Alongside P i (x.prepare p).1 (y.prepare p).1
  where
  rooted := h.rooted.prepare p
  rooted' := h.rooted'.prepare p
  client := h.client
  prepared := by
    rw [Executor.prepare, Executor.prepare, List.map_append, List.map_append, h.prepared]
  feeds := by
    intro l hl
    have hlength := congrArg List.length h.prepared
    rw [List.length_map, List.length_map] at hlength
    rw [Executor.prepare, Executor.prepare, List.getElem?_append, List.getElem?_append, hlength,
      h.feeds l hl]
  present := h.present
  length := h.length
  tasks := h.tasks

/-- Executors stay alongside each other when the same happens to both, as long as no callback
of the one task breaks off. -/
theorem perform (h : Alongside P i x y) (a : Action)
    (hquiet : ∀ now k t, a = .advance now k → i = some k → x.tasks[k]? = some t → t.Quiet now) :
  Alongside P i (x.perform a) (y.perform a)
  := by
  cases a with
  | prepare p => apply h.prepare
  | arrange queue aside => exact h.congr ⟨rfl, rfl, rfl⟩ ⟨rfl, rfl, rfl⟩
  | close l => apply h.detach
  | send l u => apply h.send
  | submit l mode c through =>
    rw [Executor.perform, Executor.perform, h.client]
    apply h.submit
  | advance now k =>
    cases ht : x.tasks[k]? with
    | none =>
      have hx : x.step now k = none := by
        rw [step, ht]
      have hy : y.step now k = none := by
        rw [step, h.task_of_none ht]
      rw [Executor.perform, Executor.perform, hx, hy]
      apply h
    | some t =>
      by_cases hP : P t.feed
      · obtain ⟨t', ht', hfeed, -⟩ := h.task_of_some ht
        apply h.comp
        · apply within_advance h.rooted ht hP
        · apply within_advance h.rooted' ht' (hfeed ▸ hP)
      · apply h.advance ht hP
        intro hi
        apply hquiet now k t rfl hi ht

/-! ### Histories -/

theorem script_eq (h : Alongside P i x y) (l : Nat) :
  y.script l = x.script l
  := by
  rw [script, script]
  cases hf : x.feeds[l]? with
  | none => rw [h.feed_of_none hf]
  | some f =>
    obtain ⟨f', hf', hsame⟩ := h.feed_of_some hf
    simp [hf', hsame]

/-- A task that is not at a feed receives nothing that is sent through the feed. -/
theorem part_send {x : Executor} (hx : x.Rooted) {j l : Nat} {t : Task}
    (ht : x.tasks[j]? = some t) (hl : t.feed ≠ l) (u : Update) :
  x.part j (.send l u) = .empty
  := by
  rw [part, if_neg]
  intro hreceiver
  obtain ⟨t', ht', hfeed⟩ := hx l j (Option.ite_none_right_eq_some.1 hreceiver).2
  cases ht.symm.trans ht'
  apply hl hfeed

/-- The part of a task whose feed matters is the same in both executors. -/
theorem part_eq (h : Alongside P i x y) (a : Action)
    (hquiet : ∀ now k t, a = .advance now k → i = some k → x.tasks[k]? = some t → t.Quiet now)
    {j : Nat} {s : Task} (hs : (x.perform a).tasks[j]? = some s) (hP : ¬ P s.feed) :
  y.part j a = x.part j a
  := by
  cases ht : x.tasks[j]? with
  | none =>
    have ht' := h.task_of_none ht
    rcases opens_perform ht a with ⟨hnone, -⟩ | ⟨c, hgrants, -⟩
    · cases hnone.symm.trans hs
    · obtain ⟨through, rfl, -⟩ := hgrants.action
      rw [part, part, h.client, h.submit_snd c.feed c.mode c.callbacks c.callbacks, h.script_eq]
  | some t =>
    obtain ⟨t', ht', hmove⟩ := moves_perform ht a
    cases ht'.symm.trans hs
    rw [Task.feed_moves hmove] at hP
    obtain ⟨r, hr, hfeed, hsame⟩ := h.task_of_some ht
    cases a with
    | prepare p => rfl
    | arrange queue aside => rfl
    | close l => rfl
    | submit l mode c through =>
      rw [part, part, h.client, h.submit_snd l mode c c, h.script_eq]
    | send l u =>
      by_cases hl : P l
      · have hne : t.feed ≠ l := by
          rintro rfl
          apply hP hl
        rw [part_send h.rooted ht hne, part_send h.rooted' hr (hfeed ▸ hne)]
      · rw [part, part, h.receiver?_eq hl]
    | advance now k =>
      by_cases hkj : k = j
      · subst hkj
        rw [part_advance ht, part_advance hr, hsame hP, Task.step_calmIf]
        · rfl
        · intro hi
          apply hquiet now k t rfl (of_decide_eq_true hi) ht
      · rw [part, part, if_neg hkj, if_neg hkj]

end Alongside

/-- In every run, the tasks that are attached to feeds are tasks of these feeds. -/
theorem rooted_run (client : Client) (as : List Action) :
  (run client as).Rooted
  := by
  induction as using List.reverseRecOn with
  | nil =>
    intro l k hk
    cases hk
  | append_singleton as a ih =>
    rw [run_concat]
    apply ((Alongside.refl (P := fun _ => False) ih).perform a _).rooted
    rintro now k t _ ⟨⟩

end Executor

end Extrinsics
