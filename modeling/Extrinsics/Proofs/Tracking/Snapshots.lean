import Extrinsics.Proofs.Tracking.Orderly

/-!
# The snapshots of a run

The snapshots of a run are what the writes up to some deed make of nothing. When the calls of
the run are told apart by their hashes, every record of a snapshot is one of the call with its
hash and is in order, and in a later snapshot there is a later state of it.
-/

namespace Extrinsics

/-- The snapshot after some deeds. -/
def snapshotOf (ds : List Deed) : Snapshot := (Store.replay (writes ds)).snapshot

theorem record?_snapshotOf (ds : List Deed) (k : String) :
  (snapshotOf ds).record? k
    = Write.reviseAll k ((writes ds).filter fun w => w.key = k) none
  := by
  rw [snapshotOf, Store.record?_replay, Write.reviseAll_filter]

theorem isPrefix_filter_writes {ds ds' : List Deed} (h : ds <+: ds') (k : String) :
  ((writes ds).filter fun w => w.key = k) <+: ((writes ds').filter fun w => w.key = k)
  := (h.filterMap Deed.write?).filter _

/-- A record that a task keeps is one of the call that was submitted. -/
theorem Tracker.Keeps.isOf {t : Task} {k : String} {r : Record} {s : Submission}
    (h : t.tracker.Keeps k r) (ht : t.IsFor s) :
  r.IsOf s
  where
  method := by rw [h.method, ht.call]
  pallet := by rw [h.pallet, ht.call]
  args := by rw [h.args, ht.call]
  account := by
    rw [h.sender, h.isSigned]
    apply ht.account

namespace Executor

variable {client : Client} {as : List Action}

/-- The deeds of a run go on from those of its beginning. -/
theorem isPrefix_deeds {bs : List Action} (h : bs <+: as) :
  (run client bs).deeds <+: (run client as).deeds
  := by
  obtain ⟨cs, rfl⟩ := h
  induction cs using List.reverseRecOn with
  | nil =>
    simp
  | append_singleton cs a ih =>
    obtain ⟨i, ds, hdeeds, -⟩ := (run client (bs ++ cs)).deeds_perform a
    rw [← List.append_assoc, run_concat, hdeeds]
    apply ih.trans
    apply List.prefix_append

/-- Every hash that is written to is canonical. -/
theorem normalize_of_mem {w : Write} (h : w ∈ writes (run client as).deeds) :
  Hash.normalize w.key = w.key
  := by
  obtain ⟨i, hi⟩ := mem_writes_run client as h
  obtain ⟨e, -, hkey, -⟩ := key_of_mem_writes hi
  rw [hkey, Update.key, Hash.normalize_normalize]

namespace Separate

variable {key : Nat → String} (h : Separate client as key)

include h

/-- The writes of a task are orderly. -/
theorem orderly {i : Nat} {t : Task} (ht : (run client as).tasks[i]? = some t) :
  t.tracker.fresh.Orderly (key i) (writes (history client as i).done)
  := by
  have hfollowed := followed_run client as ht
  rw [hfollowed.done]
  apply (Tracker.orderly_follow _).1
  intro e he
  apply h.own i
  apply hfollowed.isPrefix_taken.subset
  apply List.mem_map_of_mem he

/-- A record is in order, and it is one of the call with its hash. -/
theorem keeps {ds : List Deed} (hds : ds <+: (run client as).deeds) {k : String} {r : Record}
    (hr : (snapshotOf ds).record? k = some r) :
  Hash.normalize k = k
    ∧ ∃ i t, (run client as).tasks[i]? = some t ∧ key i = k ∧ t.tracker.Keeps k r
  := by
  obtain ⟨w, hw, rfl⟩ := Store.exists_of_record?_replay hr
  have hmem : w ∈ writes (run client as).deeds := (hds.filterMap Deed.write?).subset hw
  use normalize_of_mem hmem
  obtain ⟨i, hi, hkey⟩ := h.exists_of_mem hmem rfl
  have ht := List.getElem?_eq_getElem hi
  have horderly := (h.orderly ht).initial
    (h.filter_writes hi ▸ isPrefix_filter_writes hds (key i))
  rw [← hkey, record?_snapshotOf] at hr
  rw [← hkey]
  use i, (run client as).tasks[i], ht, rfl
  apply (horderly.keeps hr).1.of_fresh

/-- In a later snapshot there is a later state of each record. -/
theorem later {ds ds' : List Deed} (hds : ds <+: ds') (hds' : ds' <+: (run client as).deeds)
    {k : String} {r : Record} (hr : (snapshotOf ds).record? k = some r) :
  ∃ r', (snapshotOf ds').record? k = some r' ∧ r.Later r'
  := by
  obtain ⟨-, i, t, ht, rfl, -⟩ := h.keeps (hds.trans hds') hr
  obtain ⟨hi, -⟩ := List.getElem?_eq_some_iff.1 ht
  have horderly := (h.orderly ht).initial
    (h.filter_writes hi ▸ isPrefix_filter_writes hds' (key i))
  rw [record?_snapshotOf] at hr ⊢
  obtain ⟨rest, hrest⟩ := isPrefix_filter_writes hds (key i)
  rw [← hrest] at horderly ⊢
  apply horderly.later hr

end Separate

/-- When the calls of a run are told apart by their hashes, every record of a snapshot stands
at its canonical hash, is one of the call with that hash, as it was submitted, and is in order,
and in every later snapshot there is a later state of it. The store is at all times one of the
snapshots. -/
theorem record_history {key : Nat → String} (h : Separate client as key) :
  (∀ ds, ds <+: (run client as).deeds → ∀ k r, (snapshotOf ds).record? k = some r →
      Hash.normalize k = k
        ∧ ∃ i t s, (run client as).tasks[i]? = some t ∧ key i = k ∧ t.tracker.Keeps k r
          ∧ Submits client as i s ∧ r.IsOf s)
    ∧ (∀ ds ds', ds <+: ds' → ds' <+: (run client as).deeds →
      ∀ k r, (snapshotOf ds).record? k = some r →
        ∃ r', (snapshotOf ds').record? k = some r' ∧ r.Later r')
    ∧ ∀ bs, bs <+: as → (run client bs).store.snapshot = snapshotOf (run client bs).deeds
      ∧ (run client bs).deeds <+: (run client as).deeds
  := by
  refine ⟨?_, ?_, ?_⟩
  · intro ds hds k r hr
    obtain ⟨hk, i, t, ht, hkey, hkeeps⟩ := h.keeps hds hr
    obtain ⟨s, hs, hfor⟩ := origin_run client as ht
    use hk, i, t, s, ht, hkey, hkeeps, hs
    apply hkeeps.isOf hfor
  · intro ds ds' hds hds' k r hr
    apply h.later hds hds' hr
  · intro bs hbs
    rw [store_run]
    use rfl
    apply isPrefix_deeds hbs

theorem record_history_interleavedRun :
  ∃ r r', (snapshotOf ((run Samples.client Samples.interleavedRun).deeds.take 8)).record? "0xdef"
      = some r
    ∧ (run Samples.client Samples.interleavedRun).store.snapshot.record? "0xdef" = some r'
    ∧ r.status = .inBlock ∧ r'.status = .error ∧ r.Later r'
    ∧ ∃ r s signer, (run Samples.client Samples.interleavedRun).store.snapshot.record? "0xabc"
        = some r
      ∧ r.sender = Samples.alice ∧ r.isSigned
      ∧ Submits Samples.client Samples.interleavedRun 0 s
      ∧ s.mode = .signed Samples.alice signer
  := by
  obtain ⟨r, hr, hincluded⟩ : ∃ r,
      (snapshotOf ((run Samples.client Samples.interleavedRun).deeds.take 8)).record? "0xdef"
        = some r ∧ r.status = .inBlock := ⟨_, rfl, rfl⟩
  obtain ⟨hkept, hlater, hstore⟩ := record_history separate_interleavedRun
  obtain ⟨r', hr', hrr'⟩ := hlater _ _ (List.take_prefix 8 _) List.prefix_rfl "0xdef" r hr
  rw [← (hstore _ List.prefix_rfl).1] at hr'
  have hfailed : ((run Samples.client Samples.interleavedRun).store.snapshot.record?
      "0xdef").map Record.status = some .error := rfl
  rw [hr'] at hfailed
  refine ⟨r, r', hr, hr', hincluded, Option.some.inj hfailed, hrr', ?_⟩
  obtain ⟨a, ha, hsender, hsigned⟩ : ∃ a,
      (run Samples.client Samples.interleavedRun).store.snapshot.record? "0xabc" = some a
        ∧ a.sender = Samples.alice ∧ a.isSigned := ⟨_, rfl, rfl, rfl⟩
  have ha' := ha
  rw [(hstore _ List.prefix_rfl).1] at ha'
  obtain ⟨-, i, t, s, -, hkey, -, hs, hof⟩ := hkept _ List.prefix_rfl "0xabc" a ha'
  have hzero : i = 0 := by
    by_contra hne
    rw [if_neg hne] at hkey
    revert hkey
    decide
  have haccount := hof.account
  rw [hsender, hsigned] at haccount
  obtain ⟨signer, hmode⟩ := haccount.eq_signed
  use a, s, signer, ha, hsender, hsigned, hzero ▸ hs

end Executor

end Extrinsics
