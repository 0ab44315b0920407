import Extrinsics.Proofs.Tracking.Alone

/-!
# Calls are tracked independently

As long as the calls of a run are told apart by their hashes, each comes out as if it were
alone, whatever the order is in which updates are sent, streams are closed and tasks make
their steps. So the order does not matter for the records either.
-/

namespace Extrinsics.Executor

variable {client : Client}

variable {as bs : List Action}

/-- Tasks of two runs that are alike make the same record, if their hashes are those of no other
calls. -/
theorem Sole.record?_eq {i j : Nat} {k : String} (h : Sole client as i k) (h' : Sole client bs j k)
    {t t' : Task} (ht : (run client as).tasks[i]? = some t)
    (ht' : (run client bs).tasks[j]? = some t')
    (ha : Alike t (history client as i) t' (history client bs j)) :
  (run client as).store.snapshot.record? k = (run client bs).store.snapshot.record? k
  := by
  rw [h.record?_run, h'.record?_run,
    ha.done_eq (followed_run client as ht) (followed_run client bs ht')]

namespace Separate

variable {key key' : Nat → String}

/-- A record is at the key of a task. -/
theorem exists_of_record? (h : Separate client as key) {k : String} {r : Record}
    (hr : (run client as).store.snapshot.record? k = some r) :
  ∃ i < (run client as).tasks.length, key i = k
  := by
  rw [store_run] at hr
  obtain ⟨w, hw, hkey⟩ := Store.exists_of_record?_replay hr
  apply h.exists_of_mem hw hkey

/-- Runs with calls that are alike end with the same records. -/
theorem records_eq (h : Separate client as key) (h' : Separate client bs key')
    (hmatch : ∀ i t, (run client as).tasks[i]? = some t →
      ∃ j t', (run client bs).tasks[j]? = some t' ∧ key' j = key i
        ∧ Alike t (history client as i) t' (history client bs j))
    (hback : ∀ j < (run client bs).tasks.length,
      ∃ i < (run client as).tasks.length, key i = key' j) :
  (run client as).store.snapshot.records = (run client bs).store.snapshot.records
  := by
  apply Snapshot.records_ext
  intro k
  by_cases hk : ∃ i < (run client as).tasks.length, key i = k
  · obtain ⟨i, hi, rfl⟩ := hk
    have ht := List.getElem?_eq_getElem hi
    obtain ⟨j, t', ht', hkey, ha⟩ := hmatch i _ ht
    obtain ⟨hj, -⟩ := List.getElem?_eq_some_iff.1 ht'
    apply (h.sole hi).record?_eq (hkey ▸ h'.sole hj) ht ht' ha
  · have hnone : (run client as).store.snapshot.record? k = none := by
      apply Option.eq_none_iff_forall_ne_some.2
      intro r hr
      apply hk (h.exists_of_record? hr)
    have hnone' : (run client bs).store.snapshot.record? k = none := by
      apply Option.eq_none_iff_forall_ne_some.2
      intro r hr
      obtain ⟨j, hj, rfl⟩ := h'.exists_of_record? hr
      apply hk (hback j hj)
    rw [hnone, hnone']

end Separate

/-- A refused submission changes neither the tasks nor the store. -/
theorem submit_refused {x : Executor} {feed : Nat} {f : Feed} {mode : Mode}
    (hf : x.feeds[feed]? = some f) (h : mode.refuses ∨ f.prepared.rejection.isSome)
    (callbacks : Callbacks) (through : Option Client) :
  (∃ e, (x.submit feed mode callbacks (through.getD x.client)).2 = .error e)
    ∧ (x.perform (.submit feed mode callbacks through)).tasks = x.tasks
    ∧ (x.perform (.submit feed mode callbacks through)).store = x.store
  := by
  obtain ⟨e, hgrant⟩ := Mode.grant_of_refuses h
  have herror : (x.submit feed mode callbacks (through.getD x.client)).2 = .error e := by
    simp only [submit_eq, hf, hgrant]
  obtain ⟨ds, -, hx⟩ := submit_error herror
  use ⟨e, herror⟩
  rw [perform, hx]
  use rfl

/-- In a run whose calls are told apart by their hashes, each call comes out as it does in
every run of it alone, and there is such a run. A refused submission adds nothing, and there
are no other records. Any two runs whose calls are alike end with the same records. -/
theorem independent_run {as : List Action} {key : Nat → String} (h : Separate client as key) :
  (∀ i t, (run client as).tasks[i]? = some t →
      (∀ bs s, (run client bs).tasks = [s] →
        Alike t (history client as i) s (history client bs 0) →
        (run client as).store.snapshot.record? (key i)
            = (run client bs).store.snapshot.record? (key i)
          ∧ tellings (history client as i).done = tellings (history client bs 0).done
          ∧ t.outcome = s.outcome)
      ∧ ∃ bs s, (run client bs).tasks = [s]
        ∧ Alike t (history client as i) s (history client bs 0))
    ∧ (∀ (x : Executor) feed f mode callbacks through, x.feeds[feed]? = some f →
      mode.refuses ∨ f.prepared.rejection.isSome →
      (∃ e, (x.submit feed mode callbacks (through.getD x.client)).2 = .error e)
        ∧ (x.perform (.submit feed mode callbacks through)).tasks = x.tasks
        ∧ (x.perform (.submit feed mode callbacks through)).store = x.store)
    ∧ (∀ k r, (run client as).store.snapshot.record? k = some r →
      ∃ i < (run client as).tasks.length, key i = k)
    ∧ ∀ bs key', Separate client bs key' →
      (∀ i t, (run client as).tasks[i]? = some t →
        ∃ j t', (run client bs).tasks[j]? = some t' ∧ key' j = key i
          ∧ Alike t (history client as i) t' (history client bs j)) →
      (∀ j < (run client bs).tasks.length, ∃ i < (run client as).tasks.length, key i = key' j) →
      (run client as).store.snapshot.records = (run client bs).store.snapshot.records
  := by
  refine ⟨?_, ?_, ?_, ?_⟩
  · intro i t ht
    have hfollowed := followed_run client as ht
    constructor
    · intro bs s hs ha
      have hs' : (run client bs).tasks[0]? = some s := by
        rw [hs]
        rfl
      have hsingle : Sole client bs 0 (key i) := by
        apply Sole.of_single hs
        intro u hu
        rw [← ha.received] at hu
        apply h.own i u hu
      have hfollowed' := followed_run client bs hs'
      obtain ⟨hi, -⟩ := List.getElem?_eq_some_iff.1 ht
      use (h.sole hi).record?_eq hsingle ht hs' ha
      rw [ha.done_eq hfollowed hfollowed']
      use rfl
      apply ha.outcome_eq hfollowed hfollowed'
    · obtain ⟨bs, s, hs, ha, -⟩ := exists_alone ht
      use bs, s
  · intro x feed f mode callbacks through hf hrefused
    apply submit_refused hf hrefused
  · intro k r hr
    apply h.exists_of_record? hr
  · intro bs key' h' hmatch hback
    apply h.records_eq h' hmatch hback

theorem independent_interleavedRun :
  ∃ bs s, (run Samples.client bs).tasks = [s]
    ∧ (run Samples.client Samples.interleavedRun).store.snapshot.record? "0xdef"
      = (run Samples.client bs).store.snapshot.record? "0xdef"
    ∧ tellings (history Samples.client Samples.interleavedRun 1).done
      = tellings (history Samples.client bs 0).done
  := by
  obtain ⟨halone, bs, s, hs, ha⟩ := (independent_run separate_interleavedRun).1 1 _ rfl
  obtain ⟨hrecord, htellings, -⟩ := halone bs s hs ha
  use bs, s, hs, hrecord

end Extrinsics.Executor
