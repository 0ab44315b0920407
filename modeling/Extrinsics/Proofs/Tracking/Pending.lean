import Extrinsics.Proofs.Store.Query
import Extrinsics.Proofs.Tracking.Snapshots
import Extrinsics.Proofs.Tracking.Trace

/-!
# Pending calls

A call is under way from the moment its task takes a ready update until the task takes the
last update of the call. In a run whose calls are told apart by their hashes, a family of calls
is pending exactly when one of its calls is under way. Nothing else that happens to a call
matters: it may leave the pool, or its stream may close, and the family stays pending.
-/

namespace Extrinsics

/-- The family of the call that is tracked. -/
def Tracker.signature (t : Tracker) : Signature := ⟨t.call.method, t.call.pallet, t.sender⟩

@[simp] theorem Tracker.signature_fresh (t : Tracker) :
  t.fresh.signature = t.signature
  := rfl

/-- A task belongs to the family of the call that was submitted. -/
theorem Task.IsFor.signature {t : Task} {s : Submission} (h : t.IsFor s) :
  t.tracker.signature.IsOf s
  where
  method := congrArg Call.method h.call
  pallet := congrArg Call.pallet h.call
  account := ⟨t.tracker.isSigned, h.account⟩

/-- The call has become ready, and it has not come to its end. -/
def History.IsUnderWay (h : History) : Prop :=
  (∃ e ∈ h.taken, e.2.isReady) ∧ ∀ e ∈ h.taken, e.2.isLast = false

/-! ### Records under way -/

/-- There is a record as soon as one was made. -/
theorem Write.isSome_reviseAll {ws : List Write} {k : String} (hkey : ∀ w ∈ ws, w.key = k) :
  (reviseAll k ws none).isSome ↔ ∃ w ∈ ws, w.adds
  := by
  induction ws using List.reverseRecOn with
  | nil => simp
  | append_singleton ws w ih =>
    have hold := ih fun w hw => hkey w (List.mem_append_left _ hw)
    rw [reviseAll_append,
      reviseAll_singleton (hkey w (List.mem_append_right ws List.mem_cons_self))]
    simp only [List.mem_append, List.mem_singleton, or_and_right, exists_or, exists_eq_left, ← hold]
    cases w <;> simp [revise, adds]

/-- The record of orderly writes is under way when it was made and none of them ends the
call. -/
theorem Tracker.Orderly.isPending_iff {t : Tracker} {k : String} {ws : List Write}
    (h : t.Orderly k ws) :
  (∃ r, Write.reviseAll k ws none = some r ∧ r.status.isPending)
    ↔ (∃ w ∈ ws, w.adds) ∧ ∀ w ∈ ws, w.ends = false
  := by
  have hkey (w : Write) (hw : w ∈ ws) : w.key = k := (h.allowed w hw).key_eq
  rw [← Write.isSome_reviseAll hkey, Option.isSome_iff_exists, ← exists_and_right]
  apply exists_congr
  intro r
  apply and_congr_right
  intro hr
  rw [Status.isPending, Bool.not_eq_true']
  -- Only the final one of orderly writes can end the call.
  induction ws using List.reverseRecOn with
  | nil => cases hr
  | append_singleton ws w =>
    rw [Write.reviseAll_append,
      Write.reviseAll_singleton (hkey w (List.mem_append_right ws List.mem_cons_self))] at hr
    rw [Write.isTerminal_of_revise hr]
    obtain ⟨-, -, hbefore⟩ := List.pairwise_append.1 h.ordered
    constructor
    · intro hends w' hw'
      rcases List.mem_append.1 hw' with hw' | hw'
      · apply (hbefore w' hw' w List.mem_cons_self).1
      · rw [List.mem_singleton.1 hw', hends]
    · intro hends
      apply hends w (List.mem_append_right ws List.mem_cons_self)

/-! ### What the updates tell of the record -/

namespace Tracker

/-- The record is made at the first ready update, also when the callback that is told of it
breaks off. -/
theorem exists_adds_receive (t : Tracker) (now : BitVec 64) (u : Update) :
  (∃ w ∈ writes (t.receive now u).1, w.adds) ↔ t.enters u
  := by
  constructor
  · rintro ⟨w, hw, hadds⟩
    apply enters_of_adds hw hadds
  · intro henters
    use t.addition (now, u)
    constructor
    · by_cases hbreak : t.breaksAt u
      · rw [(t.writes_receive now u).1 hbreak]
        apply List.mem_singleton_self
      · rw [(t.writes_receive now u).2 hbreak, if_pos henters]
        apply List.mem_append_left _ (List.mem_singleton_self _)
    · rfl

/-- Following updates makes the record if one of them is ready, and it was not made before. -/
theorem exists_adds_follow {t : Tracker} {es : List Taken}
    (hearly : (t.follow es.dropLast).2.2 = none) :
  (∃ w ∈ writes (t.follow es).1, w.adds) ↔ t.tracked = none ∧ ∃ e ∈ es, e.2.isReady
  := by
  induction es generalizing t with
  | nil => simp [follow]
  | cons e es ih =>
    have hadds := t.exists_adds_receive e.1 e.2
    rw [enters, Bool.and_eq_true, Option.isNone_iff_eq_none] at hadds
    cases hr : (t.receive e.1 e.2).2.2 with
    | some o =>
      cases es with
      | nil =>
        rw [follow_cons_some hr, hadds]
        simp [and_comm]
      | cons d es =>
        rw [List.dropLast_cons_of_ne_nil (List.cons_ne_nil d es), follow_cons_some hr, hr]
          at hearly
        cases hearly
    | none =>
      have hrest : ((t.receive e.1 e.2).2.1.follow es.dropLast).2.2 = none := by
        cases es with
        | nil => rfl
        | cons d es =>
          rwa [List.dropLast_cons_of_ne_nil (List.cons_ne_nil d es), follow_cons_none hr]
            at hearly
      obtain ⟨-, hafter⟩ := receive_eq_none hr
      rw [hafter] at hrest
      rw [follow_cons_none hr, writes_append, hafter]
      simp only [List.mem_append, or_and_right, exists_or, hadds, ih hrest, tracked_after, enters,
        List.exists_mem_cons_iff]
      by_cases hready : e.2.isReady <;> by_cases htracked : t.tracked = none <;>
        simp [hready, htracked]

theorem exists_ends_plain (t : Tracker) (u : Update) :
  (∃ w ∈ t.plain u, w.ends) ↔ u.isLast
  := by
  constructor
  · rintro ⟨w, hw, hends⟩
    rcases List.mem_append.1 hw with hw | hw
    · obtain ⟨b, rfl⟩ := eq_of_mem_inclusion hw
      cases hends
    · apply (eq_of_mem_ending hw).1
  · intro hlast
    rw [Update.isLast, Bool.or_eq_true_iff] at hlast
    cases he : u.dispatchError with
    | some e =>
      use .error u.key (t.registry.describe e).1
      simp [plain, ending, he, Write.ends]
    | none =>
      have hfinal : u.isFinalized := by simpa [he] using hlast
      use .status u.key .finalized
      simp [plain, ending, he, hfinal, Write.ends, Status.isTerminal]

end Tracker

/-- A record is made exactly when the task takes a ready update. -/
theorem Task.Followed.exists_adds_iff {t : Task} {h : History} (ht : t.Followed h) :
  (∃ w ∈ writes h.done, w.adds) ↔ ∃ e ∈ h.taken, e.2.isReady
  := by
  rw [ht.done, Tracker.exists_adds_follow ht.early]
  apply and_iff_right rfl

namespace Task.Traced

variable {t : Task} {h : History} (ht : t.Traced h)

include ht

/-- A traced task writes the making of the record and what the updates it took call for. -/
theorem mem_writes_iff (w : Write) :
  w ∈ Extrinsics.writes h.done
    ↔ (∃ e, (h.taken.find? fun e => e.2.isReady) = some e ∧ w = t.tracker.addition e)
      ∨ ∃ e ∈ h.taken, w ∈ t.tracker.plain e.2
  := by
  have htaken (e : Taken) : e ∈ h.taken
      ↔ e ∈ (h.taken.takeWhile fun e => !e.2.isReady)
        ∨ e ∈ h.taken.dropWhile fun e => !e.2.isReady := by
    rw [← List.mem_append, List.takeWhile_append_dropWhile]
  rw [ht.writes, List.mem_append, List.mem_append, List.mem_flatMap, List.mem_flatMap,
    List.mem_map]
  simp only [htaken, or_and_right, exists_or, Option.mem_toList, eq_comm (a := w)]
  apply Iff.trans (or_congr_left or_comm)
  apply or_assoc

theorem exists_ends_iff :
  (∃ w ∈ Extrinsics.writes h.done, w.ends) ↔ ∃ e ∈ h.taken, e.2.isLast
  := by
  constructor
  · rintro ⟨w, hw, hends⟩
    rcases (ht.mem_writes_iff w).1 hw with ⟨e, -, rfl⟩ | ⟨e, he, hplain⟩
    · cases hends
    · use e, he, (t.tracker.exists_ends_plain e.2).1 ⟨w, hplain, hends⟩
  · rintro ⟨e, he, hlast⟩
    obtain ⟨w, hw, hends⟩ := (t.tracker.exists_ends_plain e.2).2 hlast
    use w, (ht.mem_writes_iff w).2 (.inr ⟨e, he, hw⟩)

end Task.Traced

namespace Executor

variable {client : Client} {as : List Action} {key : Nat → String}

/-! ### The beginning of a run -/

theorem allReturn_of_isPrefix {bs : List Action} (hbs : bs <+: as)
    (hc : ∀ t ∈ (run client as).tasks, t.tracker.callbacks.AllReturn) :
  ∀ t ∈ (run client bs).tasks, t.tracker.callbacks.AllReturn
  := by
  intro t ht
  obtain ⟨i, hi⟩ := List.mem_iff_getElem?.1 ht
  obtain ⟨t', ht', hfresh, -⟩ := exists_task_of_isPrefix hbs hi
  have hcallbacks : t'.tracker.fresh.callbacks.AllReturn := hc t' (List.mem_of_getElem? ht')
  rw [hfresh] at hcallbacks
  apply hcallbacks

/-- The calls of the beginning of a run are told apart too. -/
theorem Separate.initial {bs : List Action} (h : Separate client as key) (hbs : bs <+: as) :
  Separate client bs key
  where
  own := by
    intro i u hu
    apply h.own i
    obtain ⟨cs, rfl⟩ := hbs
    rw [history, parts_append]
    apply List.mem_append_left _ hu
  distinct := by
    have hlength (i : Nat) (hi : i < (run client bs).tasks.length) :
        i < (run client as).tasks.length := by
      obtain ⟨t', ht', -⟩ := exists_task_of_isPrefix hbs (List.getElem?_eq_getElem hi)
      apply (List.getElem?_eq_some_iff.1 ht').1
    intro i j hi hj
    apply h.distinct i j (hlength i hi) (hlength j hj)

/-! ### Pending families -/

/-- A task of a family takes an update. -/
def Takes (x : Executor) (s : Signature) (a : Action) (u : Update) : Prop :=
  ∃ now i t, a = .advance now i ∧ x.tasks[i]? = some t ∧ t.tracker.signature = s
    ∧ t.upcoming = some u

/-- What an action adds to what a task has taken is taken by the task. -/
theorem takes_of_mem_part {x : Executor} {i : Nat} {t : Task} (ht : x.tasks[i]? = some t)
    {a : Action} {e : Taken} (he : e ∈ (x.part i a).taken) :
  x.Takes t.tracker.signature a e.2
  := by
  cases a with
  | advance now j =>
    rw [part] at he
    split at he
    · rename_i hij
      subst hij
      rw [ht, Option.bind_some] at he
      obtain ⟨u, hu, rfl⟩ := List.mem_map.1 he
      use now, j, t, rfl, ht, rfl, Option.mem_toList.1 hu
    · cases he
  | prepare p => cases he
  | arrange queue aside => cases he
  | close feed => cases he
  | send feed u =>
    rw [part] at he
    split at he <;> cases he
  | submit feed mode callbacks through =>
    rw [part] at he
    split at he
    · split at he <;> cases he
    · cases he

namespace Separate

/-- The record of a call is under way exactly when the call is. -/
theorem isPending_iff (h : Separate client as key) {i : Nat} {t : Task}
    (ht : (run client as).tasks[i]? = some t) (hc : t.tracker.callbacks.AllReturn) :
  (∃ r, (run client as).store.snapshot.record? (key i) = some r ∧ r.status.isPending)
    ↔ (history client as i).IsUnderWay
  := by
  obtain ⟨hi, -⟩ := List.getElem?_eq_some_iff.1 ht
  have hfollowed := followed_run client as ht
  have htraced := hfollowed.traced hc
  rw [h.record?_run hi, (h.orderly ht).isPending_iff, hfollowed.exists_adds_iff]
  apply and_congr_right'
  have hends := not_congr htraced.exists_ends_iff
  push Not at hends
  simpa using hends

/-- A record belongs to the family of the call with its hash. -/
theorem exists_signature (h : Separate client as key) {k : String} {r : Record}
    (hr : (run client as).store.snapshot.record? k = some r) :
  ∃ i t, (run client as).tasks[i]? = some t ∧ key i = k ∧ t.tracker.signature = r.signature
  := by
  rw [store_run] at hr
  obtain ⟨-, i, t, ht, hkey, hkeeps⟩ := h.keeps List.prefix_rfl hr
  use i, t, ht, hkey
  rw [Record.signature, hkeeps.method, hkeeps.pallet, hkeeps.sender]
  rfl

/-- A family of calls is pending exactly when one of its calls is under way. -/
theorem isPending_snapshot_iff (h : Separate client as key)
    (hc : ∀ t ∈ (run client as).tasks, t.tracker.callbacks.AllReturn) (s : Signature) :
  (run client as).store.snapshot.isPending s
    ↔ ∃ i t, (run client as).tasks[i]? = some t ∧ t.tracker.signature = s
      ∧ (history client as i).IsUnderWay
  := by
  rw [Snapshot.isPending_iff]
  constructor
  · rintro ⟨k, r, hr, rfl, hpending⟩
    obtain ⟨i, t, ht, rfl, hsignature⟩ := h.exists_signature hr
    use i, t, ht, hsignature
    apply (h.isPending_iff ht (hc t (List.mem_of_getElem? ht))).1 ⟨r, hr, hpending⟩
  · rintro ⟨i, t, ht, rfl, hunder⟩
    obtain ⟨r, hr, hpending⟩ :=
      (h.isPending_iff ht (hc t (List.mem_of_getElem? ht))).2 hunder
    obtain ⟨j, t', ht', hkey, hsignature⟩ := h.exists_signature hr
    obtain ⟨hi, -⟩ := List.getElem?_eq_some_iff.1 ht
    obtain ⟨hj, -⟩ := List.getElem?_eq_some_iff.1 ht'
    obtain rfl := h.distinct j i hj hi hkey
    rw [ht] at ht'
    cases ht'
    use key j, r, hr, hsignature.symm

/-- A family of calls is pending exactly when a call of the family was submitted and is under
way. -/
theorem isPending_snapshot_iff_submits (h : Separate client as key)
    (hc : ∀ t ∈ (run client as).tasks, t.tracker.callbacks.AllReturn) (s : Signature) :
  (run client as).store.snapshot.isPending s
    ↔ ∃ i c, Submits client as i c ∧ s.IsOf c ∧ (history client as i).IsUnderWay
  := by
  rw [h.isPending_snapshot_iff hc]
  constructor
  · rintro ⟨i, t, ht, rfl, hunder⟩
    obtain ⟨c, hsubmits, hfor⟩ := origin_run client as ht
    use i, c, hsubmits, hfor.signature
  · rintro ⟨i, c, hsubmits, hof, hunder⟩
    obtain ⟨t, ht, hfor⟩ := hsubmits.exists_task
    use i, t, ht, hfor.signature.unique hof

end Separate

/-! ### Changes of a pending family -/

theorem mem_taken_concat {i : Nat} {a : Action} {e : Taken} :
  e ∈ (history client (as ++ [a]) i).taken
    ↔ e ∈ (history client as i).taken ∨ e ∈ ((run client as).part i a).taken
  := by
  rw [history_concat]
  apply List.mem_append

theorem exists_task_of_isUnderWay {i : Nat} (h : (history client as i).IsUnderWay) :
  ∃ t, (run client as).tasks[i]? = some t
  := by
  obtain ⟨⟨e, he, -⟩, -⟩ := h
  cases ht : (run client as).tasks[i]? with
  | some t => use t
  | none =>
    rw [history_eq_empty client as ht] at he
    cases he

/-- A call that is no longer under way has come to its last update. -/
theorem takes_isLast {i : Nat} {t : Task} {a : Action} (ht : (run client as).tasks[i]? = some t)
    (hbefore : (history client as i).IsUnderWay)
    (hafter : ¬ (history client (as ++ [a]) i).IsUnderWay) :
  ∃ u, (run client as).Takes t.tracker.signature a u ∧ u.isLast
  := by
  obtain ⟨⟨d, hd, hready⟩, hlive⟩ := hbefore
  by_contra hnone
  apply hafter
  constructor
  · use d, mem_taken_concat.2 (.inl hd)
  · intro e he
    rcases mem_taken_concat.1 he with he | he
    · apply hlive e he
    · apply Bool.eq_false_iff.2
      intro hlast
      apply hnone ⟨e.2, takes_of_mem_part ht he, hlast⟩

/-- A call that is under way at last has become ready. -/
theorem takes_isReady {i : Nat} {t : Task} {a : Action}
    (ht : (run client (as ++ [a])).tasks[i]? = some t)
    (hbefore : ¬ (history client as i).IsUnderWay)
    (hafter : (history client (as ++ [a]) i).IsUnderWay) :
  ∃ u, (run client as).Takes t.tracker.signature a u ∧ u.isReady
  := by
  obtain ⟨⟨e, he, hready⟩, hlive⟩ := hafter
  cases hs : (run client as).tasks[i]? with
  | none =>
    have hpart : ((run client as).part i a).taken = [] := by
      rcases opens_perform hs a with ⟨-, hpart⟩ | ⟨s, -, -, hpart⟩
      · rw [hpart]
        rfl
      · rw [hpart]
    rw [mem_taken_concat, history_eq_empty client as hs, hpart] at he
    rcases he with he | he <;> cases he
  | some s =>
    obtain ⟨t', ht', hfresh, -⟩ := exists_task_of_isPrefix (List.prefix_append as [a]) hs
    rw [ht] at ht'
    cases ht'
    rw [← Tracker.signature_fresh, hfresh, Tracker.signature_fresh]
    rcases mem_taken_concat.1 he with he | he
    · exfalso
      apply hbefore
      constructor
      · use e
      · intro d hd
        apply hlive d (mem_taken_concat.2 (.inl hd))
    · use e.2, takes_of_mem_part hs he

/-- In a run whose calls are told apart by their hashes and whose callbacks return, a family of
calls is pending exactly when one of its calls has taken a ready update and not taken the last
update of a call. The family of a call is that of its submission. Unsigned calls belong to the
family without a sender. A family that is
pending stays so until one of its calls takes its last update, and one that is not becomes so
when one of its calls takes a ready update. -/
theorem pending_run (h : Separate client as key)
    (hc : ∀ t ∈ (run client as).tasks, t.tracker.callbacks.AllReturn) :
  (∀ s, (run client as).store.snapshot.isPending s
      ↔ ∃ i t, (run client as).tasks[i]? = some t ∧ t.tracker.signature = s
        ∧ (history client as i).IsUnderWay)
    ∧ (∀ s, (run client as).store.snapshot.isPending s
      ↔ ∃ i c, Submits client as i c ∧ s.IsOf c ∧ (history client as i).IsUnderWay)
    ∧ (∀ t ∈ (run client as).tasks, t.tracker.isSigned = false → t.tracker.sender = "")
    ∧ ∀ bs a, bs ++ [a] <+: as → ∀ s,
      ((run client bs).store.snapshot.isPending s
          → ¬ (run client (bs ++ [a])).store.snapshot.isPending s
          → ∃ u, (run client bs).Takes s a u ∧ u.isLast)
        ∧ (¬ (run client bs).store.snapshot.isPending s
          → (run client (bs ++ [a])).store.snapshot.isPending s
          → ∃ u, (run client bs).Takes s a u ∧ u.isReady)
  := by
  refine ⟨h.isPending_snapshot_iff hc, h.isPending_snapshot_iff_submits hc, ?_, ?_⟩
  · intro t ht hsigned
    obtain ⟨i, hi⟩ := List.mem_iff_getElem?.1 ht
    obtain ⟨c, -, hfor⟩ := origin_run client as hi
    apply (hsigned ▸ hfor.account).eq_empty
  · intro bs a hbs s
    have hbs' : bs <+: as := (List.prefix_append bs [a]).trans hbs
    rw [(h.initial hbs').isPending_snapshot_iff (allReturn_of_isPrefix hbs' hc),
      (h.initial hbs).isPending_snapshot_iff (allReturn_of_isPrefix hbs hc)]
    constructor
    · rintro ⟨i, t, ht, rfl, hunder⟩ hafter
      apply takes_isLast ht hunder
      intro hunder'
      apply hafter
      obtain ⟨t', ht', hfresh, -⟩ := exists_task_of_isPrefix (List.prefix_append bs [a]) ht
      use i, t', ht'
      rw [← Tracker.signature_fresh, hfresh, Tracker.signature_fresh]
      use rfl
    · rintro hbefore ⟨i, t, ht, rfl, hunder⟩
      apply takes_isReady ht _ hunder
      intro hunder'
      apply hbefore
      obtain ⟨s, hs⟩ := exists_task_of_isUnderWay hunder'
      obtain ⟨t', ht', hfresh, -⟩ := exists_task_of_isPrefix (List.prefix_append bs [a]) hs
      rw [ht] at ht'
      cases ht'
      use i, s, hs
      rw [← Tracker.signature_fresh, ← hfresh, Tracker.signature_fresh]
      use rfl

end Executor

namespace Samples

/-- A signed transfer becomes ready, leaves the pool, and its stream is closed. A claim is
included before it is ready, and then it is finalized. -/
def partingRun : List Executor.Action :=
  [.prepare preparedTransfer, .prepare preparedClaim,
    .submit 0 (.signed alice ⟨false, 0⟩) ⟨some .returns, none, none⟩,
    .submit 1 .unsigned ⟨none, some .returns, some .returns⟩,
    .send 1 (.ofStatus "0xdef" (.inBlock "0xB1")), .advance 1 1,
    .send 0 (.ofStatus "0xABC" .ready), .advance 2 0,
    .send 1 (.ofStatus "0xDEF" .ready), .advance 3 1,
    .send 0 (.ofStatus "0xABC" (.usurped "0xEE")), .advance 4 0, .close 0, .advance 5 0,
    .send 1 (.ofStatus "0xDEF" (.finalized "0xB1")), .advance 6 1]

end Samples

namespace Executor

theorem separate_partingRun :
  Separate Samples.client Samples.partingRun fun i => if i = 0 then "0xabc" else "0xdef"
  := separate_pair rfl (by decide) (by decide) (by decide)

theorem pending_partingRun :
  (run Samples.client Samples.partingRun).store.snapshot.isPending
      ⟨"transfer", "balances", Samples.alice⟩
    ∧ (∃ i c signer, Submits Samples.client Samples.partingRun i c
      ∧ c.prepared.call.method = "transfer" ∧ c.mode = .signed Samples.alice signer)
    ∧ ¬ (run Samples.client Samples.partingRun).store.snapshot.isPending
      ⟨"claim", "crowdloanRewards", ""⟩
    ∧ ∃ u, (run Samples.client (Samples.partingRun.take 15)).Takes
        ⟨"claim", "crowdloanRewards", ""⟩ (.advance 6 1) u ∧ u.isLast
  := by
  have hreturn : ∀ t ∈ (run Samples.client Samples.partingRun).tasks,
      t.tracker.callbacks.AllReturn := by
    decide
  obtain ⟨hiff, hsubmits, -, hchange⟩ := pending_run separate_partingRun hreturn
  have hended : ¬ (run Samples.client Samples.partingRun).store.snapshot.isPending
      ⟨"claim", "crowdloanRewards", ""⟩ := by
    decide
  have hpending : (run Samples.client Samples.partingRun).store.snapshot.isPending
      ⟨"transfer", "balances", Samples.alice⟩ := by
    apply (hiff _).2
    refine ⟨0, _, rfl, rfl, ?_⟩
    constructor
    · use (2, .ofStatus "0xABC" .ready), List.mem_cons_self
      rfl
    · decide
  refine ⟨hpending, ?_, hended, ?_⟩
  · obtain ⟨i, c, hc, hof, -⟩ := (hsubmits _).1 hpending
    obtain ⟨signed, haccount⟩ := hof.account
    cases signed with
    | true =>
      obtain ⟨signer, hmode⟩ := haccount.eq_signed
      use i, c, signer, hc, hof.method.symm
    | false => exact absurd haccount.eq_empty (by decide)
  · apply (hchange (Samples.partingRun.take 15) (.advance 6 1) List.prefix_rfl _).1 _ hended
    decide

end Executor

end Extrinsics
