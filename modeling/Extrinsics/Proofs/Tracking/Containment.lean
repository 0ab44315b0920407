import Extrinsics.Proofs.Tracking.Alone
import Extrinsics.Proofs.Tracking.Alongside
import Extrinsics.Proofs.Tracking.Pending

/-!
# Containment

A callback that breaks off ends the tracking of its own call and nothing else. Two runs are
compared in which the same happens, but in one of them the callbacks of a submission may break
off, and in the other they return. Submissions of one prepared call share its hash and its
feed, so the calls that are told apart from the submission are those at other feeds.
-/

namespace Extrinsics

namespace Task

/-- A stopped task takes and does nothing more. -/
theorem Followed.stays {t t' : Task} {h h' : History} (ht : t.Followed h) {o : Outcome}
    (ho : t.outcome = some o) (hmove : t.Moves h' t') :
  h' = .empty ∧ t'.outcome = some o
  := by
  obtain ⟨-, hinactive, -⟩ := ht.stopped o ho
  cases hmove with
  | rest c => exact ⟨rfl, by rw [outcome_closeIf, ho]⟩
  | receive u hacc =>
    rw [Subscription.accepts, hinactive, Bool.and_false] at hacc
    cases hacc
  | abandon c hrun hqueue hacc => cases ho.symm.trans hrun
  | take now u rest c hrun hqueue => cases ho.symm.trans hrun

theorem Quiet.any_step {t : Task} {now : BitVec 64} (hquiet : t.Quiet now) :
  (((t.step now).map Prod.fst).getD []).any t.tracker.callbacks.breaksOffAt = false
  := by
  cases hstep : t.step now with
  | none => rfl
  | some r =>
    obtain ⟨hrun, ⟨-, -, hnil, -⟩ | ⟨u, rest, hqueue, htaken, -⟩⟩ := step_cases hstep
    · simp [hnil]
    · have hany := hquiet u (by rw [upcoming, isFinished, hrun, hqueue]; rfl)
      simpa [htaken] using hany

/-- A task whose callback breaks off in a step abandons its call. -/
theorem outcome_take {t : Task} {now : BitVec 64} {u : Update}
    (h : (t.tracker.receive now u).1.any t.tracker.callbacks.breaksOffAt) (rest : List Update) :
  (t.take now u rest).outcome = some (.abandoned none)
  := by
  have hcuts := t.tracker.receive_calm now u
  rw [hcuts.done, Callbacks.any_cut] at h
  rw [take_of_some (hcuts.broken h), stop]

/-- How a task `t` whose callbacks may break off compares with the same task `t'` with callbacks
that return. -/
structure Contained (c : Callbacks) (t : Task) (h : History) (t' : Task) (h' : History) :
    Prop where
  /-- As long as no callback is told that would break off, there is no difference. -/
  unbroken : h'.done.any c.breaksOffAt = false → h = h' ∧ t' = t.calmIf true
  /-- The task breaks off at the first telling of such a callback. Then it reports the duration
  if the timer has been started, and its subscription is cancelled, once. -/
  broken : ∀ before d rest, h'.done = before ++ d :: rest →
    before.any c.breaksOffAt = false → c.breaksOffAt d →
    h.done = before ++ d :: (if before.any Deed.startsTimer then [.count (.lifecycle ())] else [])
      ∧ h.taken <+: h'.taken ∧ t.outcome = some (.abandoned none)
      ∧ t.stream.isActive = false ∧ t.stream.unsubscribed = 1

end Task

namespace Executor

/-- A run with a submission in it. -/
def submitting (pre : List Action) (feed : Nat) (mode : Mode) (through : Option Client)
    (c : Callbacks) (post : List Action) : List Action :=
  pre ++ .submit feed mode c through :: post

section

variable {client : Client} {pre : List Action} {feed : Nat} {mode : Mode}
  {through : Option Client} {c : Callbacks} {i : Nat}

theorem submitting_append (post rest : List Action) :
  submitting pre feed mode through c (post ++ rest)
    = submitting pre feed mode through c post ++ rest
  := by
  simp [submitting]

theorem run_submitting_nil :
  run client (submitting pre feed mode through c [])
    = ((run client pre).submit feed mode c (through.getD client)).1
  := by
  rw [submitting, run_concat, perform, client_run]

/-- The callbacks do not matter for whether a submission is granted. -/
theorem submit_snd_run (c c' : Callbacks) (other : Client) :
  ((run client pre).submit feed mode c' other).2 = ((run client pre).submit feed mode c other).2
  := (Alongside.refl (P := fun _ => False) (rooted_run client pre)).submit_snd feed mode c c' other

/-- The callbacks do not matter for the history at the submission. -/
theorem history_submitting_nil (c' : Callbacks) (j : Nat) :
  history client (submitting pre feed mode through c' []) j
    = history client (submitting pre feed mode through c []) j
  := by
  rw [submitting, submitting, history_concat, history_concat, part, part, submit_snd_run c c']

/-- A stopped task takes and does nothing more in a run. -/
theorem history_of_stopped {as : List Action} {t : Task} {o : Outcome}
    (ht : (run client as).tasks[i]? = some t) (ho : t.outcome = some o) (bs : List Action) :
  history client (as ++ bs) i = history client as i
    ∧ ∃ t', (run client (as ++ bs)).tasks[i]? = some t' ∧ t'.outcome = some o
  := by
  induction bs using List.reverseRecOn with
  | nil =>
    rw [List.append_nil]
    use rfl, t
  | append_singleton bs a ih =>
    obtain ⟨hhistory, t', ht', ho'⟩ := ih
    obtain ⟨t'', ht'', hmove⟩ := moves_perform ht' a
    obtain ⟨hpart, ho''⟩ := (followed_run client _ ht').stays ho' hmove
    rw [← List.append_assoc, history_concat, run_concat, hpart, History.append_empty]
    use hhistory, t''

variable (h : ((run client pre).submit feed mode c (through.getD client)).2 = .ok i)

include h

/-! ### The other calls -/

/-- Whatever the callbacks of a submission do, the executors differ at its feed only. -/
theorem alongside_elsewhere (c' : Callbacks) (post : List Action) :
  Alongside (· = feed) none (run client (submitting pre feed mode through c post))
    (run client (submitting pre feed mode through c' post))
  := by
  induction post using List.reverseRecOn with
  | nil =>
    rw [run_submitting_nil, run_submitting_nil]
    apply (Alongside.refl (rooted_run client pre)).grant h
    · intro k _
      rfl
    · rintro k ⟨⟩
    · intro hne
      exact (hne rfl).elim
  | append_singleton post a ih =>
    rw [submitting_append, submitting_append, run_concat, run_concat]
    apply ih.perform
    rintro now k t _ ⟨⟩

/-- The tasks at other feeds are the same. -/
theorem task_elsewhere (c' : Callbacks) (post : List Action) {j : Nat} {s : Task}
    (hs : (run client (submitting pre feed mode through c post)).tasks[j]? = some s)
    (hfeed : s.feed ≠ feed) :
  (run client (submitting pre feed mode through c' post)).tasks[j]? = some s
  := by
  obtain ⟨s', hs', -, hsame⟩ := (alongside_elsewhere h c' post).task_of_some hs
  cases hsame hfeed
  apply hs'

/-- The tasks at other feeds do the same. -/
theorem history_elsewhere (c' : Callbacks) (post : List Action) {j : Nat} {s : Task}
    (hs : (run client (submitting pre feed mode through c post)).tasks[j]? = some s)
    (hfeed : s.feed ≠ feed) :
  history client (submitting pre feed mode through c' post) j
    = history client (submitting pre feed mode through c post) j
  := by
  induction post using List.reverseRecOn generalizing s with
  | nil => apply history_submitting_nil
  | append_singleton post a ih =>
    have hbeside := alongside_elsewhere h c' post
    rw [submitting_append] at hs
    rw [run_concat] at hs
    have hpart := hbeside.part_eq a (by rintro now k t _ ⟨⟩) hs hfeed
    rw [submitting_append, submitting_append, history_concat, history_concat, hpart]
    congr 1
    cases hj : (run client (submitting pre feed mode through c post)).tasks[j]? with
    | none =>
      rw [history_eq_empty client _ hj, history_eq_empty client _ (hbeside.task_of_none hj)]
    | some t =>
      obtain ⟨t', ht', hmove⟩ := moves_perform hj a
      cases ht'.symm.trans hs
      apply ih hj
      rwa [← Task.feed_moves hmove]

/-! ### The call itself -/

/-- The submission opens a task. -/
theorem exists_task_submitting :
  ∃ r : Tracker, ∀ c' post, ∃ t,
    (run client (submitting pre feed mode through c' post)).tasks[i]? = some t
      ∧ t.tracker.fresh = { r with callbacks := c' }
  := by
  obtain ⟨hi, f, hf, -⟩ := submit_ok h
  let other := through.getD client
  use (Task.opening other feed f.prepared mode c).tracker
  intro c' post
  obtain ⟨-, f', hf', -, feeds, queue, hx⟩ := submit_ok ((submit_snd_run c c' other).trans h)
  cases hf.symm.trans hf'
  have hopen : (run client (submitting pre feed mode through c' [])).tasks[i]?
      = some (Task.opening other feed f.prepared mode c') := by
    rw [run_submitting_nil, hx, hi, ← length_detach (run client pre) feed]
    apply List.getElem?_concat_length
  have hprefix : submitting pre feed mode through c' []
      <+: submitting pre feed mode through c' post := by
    rw [← List.nil_append post, submitting_append]
    apply List.prefix_append
  obtain ⟨t, ht, hfresh, -⟩ := exists_task_of_isPrefix hprefix hopen
  use t, ht, hfresh

/-- Until a callback breaks off, the executors differ in the callbacks only. Then the task has
broken off, and what it took is the beginning of what it takes when its callbacks return. -/
theorem alongside_submitting (post : List Action) :
  (Alongside (fun _ => False) (some i) (run client (submitting pre feed mode through c post))
        (run client (submitting pre feed mode through c.calm post))
      ∧ history client (submitting pre feed mode through c.calm post) i
        = history client (submitting pre feed mode through c post) i
      ∧ (history client (submitting pre feed mode through c post) i).done.any c.breaksOffAt = false)
    ∨ ∃ t, (run client (submitting pre feed mode through c post)).tasks[i]? = some t
      ∧ t.outcome = some (.abandoned none)
      ∧ (history client (submitting pre feed mode through c post) i).done.any c.breaksOffAt
      ∧ (history client (submitting pre feed mode through c post) i).taken
        <+: (history client (submitting pre feed mode through c.calm post) i).taken
  := by
  induction post using List.reverseRecOn with
  | nil =>
    left
    obtain ⟨hi, -⟩ := submit_ok h
    refine ⟨?_, history_submitting_nil c.calm i, ?_⟩
    · rw [run_submitting_nil, run_submitting_nil]
      apply (Alongside.refl (rooted_run client pre)).grant h
      · intro k hk
        simp [hi, hk.ne']
      · rintro k ⟨⟩
        apply hi.le
      · intro _
        rw [if_pos (congrArg some hi)]
    · have hnone : (run client pre).tasks[i]? = none := by
        rw [hi]
        apply List.getElem?_eq_none le_rfl
      rw [submitting, history_concat, history_eq_empty client pre hnone, History.empty_append]
      rcases (run client pre).done_part i (.submit feed mode c through) with
        ⟨-, hdone⟩ | ⟨now, ha, -⟩
      · rw [hdone]
        rfl
      · cases ha
  | append_singleton post a ih =>
    obtain ⟨r, hr⟩ := exists_task_submitting h
    obtain ⟨s, hs, -⟩ := hr c (post ++ [a])
    obtain ⟨t, ht, hfresh⟩ := hr c post
    have hc : t.tracker.callbacks = c := congrArg Tracker.callbacks hfresh
    rw [submitting_append] at hs
    rw [run_concat] at hs
    rw [submitting_append, submitting_append, run_concat, run_concat, history_concat,
      history_concat]
    rcases ih with ⟨hbeside, hhistory, hdone⟩ | ⟨t', ht', ho, hdone, htaken⟩
    · by_cases hquiet : ∀ now, a = .advance now i → t.Quiet now
      · left
        have hquiet' : ∀ now k t', a = .advance now k → some i = some k →
            (run client (submitting pre feed mode through c post)).tasks[k]? = some t' →
            t'.Quiet now := by
          rintro now k t' ha ⟨⟩ ht'
          cases ht.symm.trans ht'
          apply hquiet now ha
        use hbeside.perform a hquiet'
        rw [hbeside.part_eq a hquiet' hs id, hhistory]
        use rfl
        change (_ ++ _ : List Deed).any _ = _
        rw [List.any_append, hdone, Bool.false_or]
        rcases (run client (submitting pre feed mode through c post)).done_part i a with
          ⟨-, hpart⟩ | ⟨now, rfl, -⟩
        · rw [hpart]
          rfl
        · rw [part_advance ht, ← hc]
          apply (hquiet now rfl).any_step
      · right
        simp only [Task.Quiet, not_forall] at hquiet
        obtain ⟨now, rfl, u, hup, hbreak⟩ := hquiet
        obtain ⟨rest, hrun, hqueue⟩ := Task.upcoming_eq_some hup
        obtain ⟨b, htask, hpart⟩ := advance_take ht now hrun hqueue
        obtain ⟨t', ht', -, hsame⟩ := hbeside.task_of_some ht
        cases hsame id
        obtain ⟨-, -, hpart'⟩ := advance_take ht' now hrun hqueue
        have hany := Bool.of_not_eq_false hbreak
        refine ⟨_, htask, ?_, ?_, ?_⟩
        · rw [Task.outcome_closeIf, Task.outcome_take hany]
        · change (_ ++ _ : List Deed).any _
          rw [hpart, List.any_append, ← hc, hany, Bool.or_true]
        · use []
          rw [List.append_nil]
          change _ ++ _ = (_ ++ _ : List Taken)
          rw [hpart, hpart', hhistory]
    · right
      cases ht.symm.trans ht'
      obtain ⟨s', hs', hmove⟩ := moves_perform ht a
      cases hs.symm.trans hs'
      obtain ⟨hpart, ho'⟩ := (followed_run client _ ht).stays ho hmove
      rw [hpart, History.append_empty]
      use s, hs, ho', hdone
      apply htaken.trans
      apply List.prefix_append

/-- What the task does is cut short where a callback breaks off. -/
theorem done_submitting (post : List Action) :
  (history client (submitting pre feed mode through c post) i).done
    = c.cut false (history client (submitting pre feed mode through c.calm post) i).done
  := by
  rcases alongside_submitting h post with ⟨-, hhistory, hdone⟩ | ⟨t, ht, -, hdone, htaken⟩
  · rw [hhistory, c.cut_eq_self hdone]
  · obtain ⟨r, hr⟩ := exists_task_submitting h
    obtain ⟨s, hs, hfresh⟩ := hr c post
    obtain ⟨s', hs', hfresh'⟩ := hr c.calm post
    have hc : s.tracker.fresh.callbacks = c := by rw [hfresh]
    have hcalm : s'.tracker.fresh = s.tracker.fresh.calm := by
      rw [hfresh', hfresh]
      rfl
    have hcut := (s.tracker.fresh.follow_calm
      (history client (submitting pre feed mode through c post) i).taken).done
    obtain ⟨ds, hds⟩ := Tracker.follow_isPrefix (t := s'.tracker.fresh) htaken
    rw [← (followed_run client _ hs).done, hc, ← hcalm] at hcut
    rw [← (followed_run client _ hs').done] at hds
    rw [hcut, Callbacks.any_cut] at hdone
    rw [hcut, ← hds, c.cut_append hdone]
    rfl

/-- Once a callback that would break off is told, the task has stopped. -/
theorem stopped_submitting {post : List Action}
    (hbreak : (history client (submitting pre feed mode through c.calm post) i).done.any
      c.breaksOffAt) :
  ∃ t, (run client (submitting pre feed mode through c post)).tasks[i]? = some t
    ∧ t.outcome = some (.abandoned none)
    ∧ (history client (submitting pre feed mode through c post) i).taken
      <+: (history client (submitting pre feed mode through c.calm post) i).taken
  := by
  rcases alongside_submitting h post with ⟨-, hhistory, hdone⟩ | ⟨t, ht, ho, -, htaken⟩
  · rw [hhistory, hdone] at hbreak
    cases hbreak
  · use t, ht, ho

theorem contained_submitting {post : List Action} {t t' : Task}
    (ht : (run client (submitting pre feed mode through c post)).tasks[i]? = some t)
    (ht' : (run client (submitting pre feed mode through c.calm post)).tasks[i]? = some t') :
  t.Contained c (history client (submitting pre feed mode through c post) i)
    t' (history client (submitting pre feed mode through c.calm post) i)
  where
  unbroken := by
    intro hdone
    rcases alongside_submitting h post with ⟨hbeside, hhistory, -⟩ | ⟨-, -, -, hbreak, -⟩
    · use hhistory.symm
      obtain ⟨-, hsame⟩ := hbeside.tasks i t t' ht ht'
      rw [hsame id, decide_eq_true rfl]
    · rw [done_submitting h, Callbacks.any_cut, hdone] at hbreak
      cases hbreak
  broken := by
    intro before d rest hdone hbefore hd
    have hbreak : (history client (submitting pre feed mode through c.calm post) i).done.any
        c.breaksOffAt := by
      rw [hdone, List.any_append, List.any_cons, hd, Bool.true_or, Bool.or_true]
    obtain ⟨s, hs, ho, htaken⟩ := stopped_submitting h hbreak
    cases ht.symm.trans hs
    obtain ⟨-, hcancelled⟩ := (followed_run client _ ht).stopped _ ho
    rw [done_submitting h, hdone, c.cut_of_breaksOff hbefore hd, Bool.false_or]
    use rfl, htaken, ho

end

/-- A callback that breaks off is contained. What the tracking of its call does is what it does
when the callbacks return, cut short right after the telling of that callback, except that the
duration is reported if the timer has been started. The subscription is cancelled once, and the
task takes nothing more. At other feeds, which are those of other calls, the tasks do the same
and end in the same way, and if the calls are told apart by their hashes, the records are the
same. -/
theorem contained_run {client : Client} {pre : List Action} {feed : Nat} {mode : Mode}
    {through : Option Client} {c : Callbacks} {i : Nat}
    (h : ((run client pre).submit feed mode c (through.getD client)).2 = .ok i)
    (post : List Action) :
  let as := submitting pre feed mode through c post
  let bs := submitting pre feed mode through c.calm post
  (∃ t t', (run client as).tasks[i]? = some t ∧ (run client bs).tasks[i]? = some t'
      ∧ t.Contained c (history client as i) t' (history client bs i)
      ∧ ((history client bs i).done.any c.breaksOffAt →
        ∀ rest, history client (as ++ rest) i = history client as i))
    ∧ ∀ j s, s.feed ≠ feed →
      ((run client as).tasks[j]? = some s ↔ (run client bs).tasks[j]? = some s)
        ∧ ((run client as).tasks[j]? = some s →
          history client as j = history client bs j
            ∧ ∀ key, Separate client as key → Separate client bs key →
              (run client as).store.snapshot.record? (key j)
                = (run client bs).store.snapshot.record? (key j))
  := by
  dsimp only
  constructor
  · obtain ⟨r, hr⟩ := exists_task_submitting h
    obtain ⟨t, ht, -⟩ := hr c post
    obtain ⟨t', ht', -⟩ := hr c.calm post
    use t, t', ht, ht', contained_submitting h ht ht'
    intro hbreak rest
    obtain ⟨s, hs, ho, -⟩ := stopped_submitting h hbreak
    apply (history_of_stopped hs ho rest).1
  · intro j s hfeed
    have h' := (submit_snd_run c c.calm _).trans h
    constructor
    · constructor
      · intro hs
        apply task_elsewhere h c.calm post hs hfeed
      · intro hs
        apply task_elsewhere h' c post hs hfeed
    · intro hs
      have hs' := task_elsewhere h c.calm post hs hfeed
      have hhistory := history_elsewhere h c.calm post hs hfeed
      use hhistory.symm
      intro key hkey hkey'
      obtain ⟨hj, -⟩ := List.getElem?_eq_some_iff.1 hs
      obtain ⟨hj', -⟩ := List.getElem?_eq_some_iff.1 hs'
      rw [hkey.record?_run hj, hkey'.record?_run hj', hhistory]

end Executor

namespace Samples

/-- A claim is submitted, and a transfer is known. -/
def claimFirst : List Executor.Action :=
  [.prepare preparedClaim, .prepare preparedTransfer,
    .submit 0 .unsigned ⟨some .returns, none, none⟩]

/-- Callbacks of which the one for finalized calls breaks off. -/
def brittle : Callbacks := ⟨some .returns, some .breaksOff, none⟩

/-- The transfer becomes ready and is finalized. Then the claim is. -/
def transferFirst : List Executor.Action :=
  [.send 1 (.ofStatus "0xABC" .ready), .advance 1 1,
    .send 0 (.ofStatus "0xDEF" .ready), .advance 2 0,
    .send 1 (.ofStatus "0xABC" (.finalized "0xB1")), .advance 3 1,
    .send 0 (.ofStatus "0xDEF" (.finalized "0xB2")), .advance 4 0]

end Samples

namespace Executor

theorem contained_brittle :
  let as := submitting Samples.claimFirst 1 .unsigned none Samples.brittle Samples.transferFirst
  (∃ t, (run Samples.client as).tasks[1]? = some t ∧ t.outcome = some (.abandoned none)
      ∧ t.stream.unsubscribed = 1
      ∧ ∃ r, (history Samples.client as 1).done
        = [.write (.add "0xabc" r), .tellReady "0xabc", .count .recordCreated,
          .write (.status "0xabc" .finalized), .tellFinalized "0xabc" [],
          .count (.lifecycle ())])
    ∧ ∃ s, (run Samples.client as).tasks[0]? = some s
      ∧ s.outcome = some (.finalized "0xdef" "0xb2")
  := by
  have hgranted : ((run Samples.client Samples.claimFirst).submit 1 .unsigned Samples.brittle
      ((none : Option Client).getD Samples.client)).2 = .ok 1 := rfl
  obtain ⟨⟨t, t', ht, -, hcontained, -⟩, hothers⟩ := contained_run hgranted Samples.transferFirst
  constructor
  · obtain ⟨hdone, -, ho, -, hcount⟩ := hcontained.broken
      [.write (.add "0xabc" _), .tellReady "0xabc", .count .recordCreated,
        .write (.status "0xabc" .finalized)] (.tellFinalized "0xabc" [])
      [.count (.terminal "isFinalized"), .count (.lifecycle ())] rfl rfl rfl
    exact ⟨t, ht, ho, hcount, _, hdone⟩
  · obtain ⟨s, hs, ho, hfeed⟩ : ∃ s, (run Samples.client (submitting Samples.claimFirst 1 .unsigned
        none Samples.brittle.calm Samples.transferFirst)).tasks[0]? = some s
        ∧ s.outcome = some (.finalized "0xdef" "0xb2") ∧ s.feed ≠ 1 :=
      ⟨_, rfl, rfl, by decide⟩
    use s, ((hothers 0 s hfeed).1).2 hs, ho

end Executor

end Extrinsics
