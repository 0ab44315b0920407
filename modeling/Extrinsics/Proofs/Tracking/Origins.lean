import Mathlib.Data.List.Induction
import Extrinsics.Proofs.Tracking.Run

/-!
# The submissions of a run

Each task of a run was opened by one submission, of the call that was prepared for its feed. The
account of the task, its callbacks and the registry that it describes errors by are those of the
submission.
-/

namespace Extrinsics

namespace Executor.Mode

/-- The account that submits a call, and whether it signs the call. An unsigned call is submitted
without an account. -/
inductive IsFrom : Mode → String → Bool → Prop where
  | signed (sender : String) (signer : Signer) : IsFrom (signed sender signer) sender true
  | unsigned : IsFrom unsigned "" false

theorem isFrom (mode : Mode) :
  mode.IsFrom mode.sender mode.isSigned
  := by
  cases mode with
  | signed sender signer => apply IsFrom.signed
  | unsigned => apply IsFrom.unsigned

namespace IsFrom

variable {mode : Mode} {sender sender' : String} {signed signed' : Bool}

/-- A call is submitted by one account. -/
theorem unique (h : mode.IsFrom sender signed) (h' : mode.IsFrom sender' signed') :
  sender = sender' ∧ signed = signed'
  := by
  cases h <;> cases h' <;> exact ⟨rfl, rfl⟩

theorem eq_signed (h : mode.IsFrom sender true) :
  ∃ signer, mode = .signed sender signer
  := by
  cases h with
  | signed _ signer => use signer

/-- The account of an unsigned call is empty. -/
theorem eq_empty (h : mode.IsFrom sender false) :
  sender = ""
  := by
  cases h
  rfl

end IsFrom

end Executor.Mode

/-- A task tracks a submission. -/
structure Task.IsFor (t : Task) (s : Submission) : Prop where
  feed : t.feed = s.feed
  call : t.tracker.call = s.prepared.call
  account : s.mode.IsFrom t.tracker.sender t.tracker.isSigned
  callbacks : t.tracker.callbacks = s.callbacks
  registry : t.tracker.registry = s.client.registry

/-- A record is one of the submitted call. -/
structure Record.IsOf (r : Record) (s : Submission) : Prop where
  method : r.method = s.prepared.call.method
  pallet : r.pallet = s.prepared.call.pallet
  args : r.args = s.prepared.call.args
  account : s.mode.IsFrom r.sender r.isSigned

/-- A submitted call belongs to a family. -/
structure Signature.IsOf (f : Signature) (s : Submission) : Prop where
  method : f.method = s.prepared.call.method
  pallet : f.pallet = s.prepared.call.pallet
  account : ∃ signed, s.mode.IsFrom f.sender signed

/-- A submitted call belongs to one family. -/
theorem Signature.IsOf.unique {f f' : Signature} {s : Submission} (h : f.IsOf s)
    (h' : f'.IsOf s) :
  f = f'
  := by
  obtain ⟨hmethod, hpallet, signed, haccount⟩ := h
  obtain ⟨hmethod', hpallet', signed', haccount'⟩ := h'
  cases f
  cases f'
  simp only [mk.injEq]
  exact ⟨hmethod.trans hmethod'.symm, hpallet.trans hpallet'.symm,
    (haccount.unique haccount').1⟩

namespace Task.IsFor

theorem opening (s : Submission) :
  s.opening.IsFor s
  where
  feed := rfl
  call := rfl
  account := s.mode.isFrom
  callbacks := rfl
  registry := rfl

/-- What a task is for is said by its feed and by what it makes its record from. -/
theorem of_fresh {t t' : Task} {s : Submission} (h : t.IsFor s)
    (hfresh : t'.tracker.fresh = t.tracker.fresh) (hfeed : t'.feed = t.feed) :
  t'.IsFor s
  where
  feed := hfeed.trans h.feed
  call := (congrArg Tracker.call hfresh).trans h.call
  account := by
    change s.mode.IsFrom t'.tracker.fresh.sender t'.tracker.fresh.isSigned
    rw [hfresh]
    apply h.account
  callbacks := (congrArg Tracker.callbacks hfresh).trans h.callbacks
  registry := (congrArg Tracker.registry hfresh).trans h.registry

theorem fresh_eq {t : Task} {s : Submission} (h : t.IsFor s) :
  t.tracker.fresh = s.opening.tracker
  := by
  obtain ⟨hsender, hsigned⟩ := h.account.unique s.mode.isFrom
  rw [Tracker.fresh, h.call, h.callbacks, h.registry, hsender, hsigned]
  rfl

end Task.IsFor

namespace Executor

/-! ### Prepared calls -/

/-- The call that is prepared in an action. -/
def Action.prepared? : Action → Option PreparedCall
  | .prepare p => some p
  | _ => none

theorem prepared_modifyFeed {f : Feed → Feed} (hf : ∀ g, (f g).prepared = g.prepared)
    (x : Executor) (l : Nat) :
  (x.modifyFeed l f).feeds.map Feed.prepared = x.feeds.map Feed.prepared
  := by
  ext1 l'
  rw [modifyFeed, List.getElem?_map, List.getElem?_map, List.getElem?_modify]
  cases x.feeds[l']? with
  | none => rfl
  | some g => by_cases hll' : l = l' <;> simp [hll', hf]

theorem prepared_detach (x : Executor) (l : Nat) :
  (x.detach l).feeds.map Feed.prepared = x.feeds.map Feed.prepared
  := by
  rw [feeds_detach]
  apply prepared_modifyFeed
  intro g
  rfl

theorem prepared_stop (x : Executor) (i : Nat) (o : Outcome) :
  (x.stop i o).feeds.map Feed.prepared = x.feeds.map Feed.prepared
  := by
  rw [stop, cancel]
  split
  · rfl
  · dsimp only
    split
    · apply (prepared_detach _ _).trans
      apply prepared_modifyFeed
      intro g
      rfl
    · rfl

theorem prepared_step {x y : Executor} {now : BitVec 64} {i : Nat} (h : x.step now i = some y) :
  y.feeds.map Feed.prepared = x.feeds.map Feed.prepared
  := by
  rw [step] at h
  split at h
  · cases h
  · split at h
    · cases h
    · split at h
      · cases h
      · cases h
        apply prepared_stop
      · dsimp only at h
        rw [actAll_eq] at h
        split at h <;> cases h
        · rfl
        · apply prepared_stop

theorem prepared_submit (x : Executor) (feed : Nat) (mode : Mode) (callbacks : Callbacks)
    (client : Client) :
  (x.submit feed mode callbacks client).1.feeds.map Feed.prepared = x.feeds.map Feed.prepared
  := by
  rw [submit_eq]
  split
  · rfl
  · rename_i f _
    split
    · rfl
    · obtain ⟨queue, hsubscribe⟩ :=
        (x.counted mode).subscribe_eq feed f.prepared mode callbacks client
      rw [hsubscribe]
      apply Eq.trans _ ((x.counted mode).prepared_detach feed)
      apply prepared_modifyFeed (x := (x.counted mode).detach feed)
      intro g
      rfl

/-- Calls are known once they are prepared, and no others are. -/
theorem prepared_perform (x : Executor) (a : Action) :
  (x.perform a).feeds.map Feed.prepared = x.feeds.map Feed.prepared ++ a.prepared?.toList
  := by
  cases a with
  | prepare p => simp [perform, prepare, Action.prepared?, Feed.ofCall]
  | submit feed mode callbacks through =>
    apply (x.prepared_submit feed mode callbacks _).trans
    simp [Action.prepared?]
  | send feed u =>
    obtain ⟨queue, hx⟩ := x.send_eq feed u
    simp [perform, hx, Action.prepared?]
  | close feed =>
    apply (x.prepared_detach feed).trans
    simp [Action.prepared?]
  | advance now i =>
    rw [perform]
    cases h : x.step now i with
    | none => simp [Action.prepared?]
    | some y =>
      apply (prepared_step h).trans
      simp [Action.prepared?]
  | arrange queue aside => simp [perform, Action.prepared?]

variable {client : Client} {as : List Action}

theorem prepared_run :
  (run client as).feeds.map Feed.prepared = as.filterMap Action.prepared?
  := by
  induction as using List.reverseRecOn with
  | nil => rfl
  | append_singleton as a ih =>
    rw [run_concat, prepared_perform, ih, List.filterMap_append]
    cases a <;> rfl

theorem client_run :
  (run client as).client = client
  := by
  induction as using List.reverseRecOn with
  | nil => rfl
  | append_singleton as a ih => rw [run_concat, client_perform, ih]

/-- A call keeps its number when more calls are prepared. -/
theorem prepared_of_isPrefix {bs : List Action} (hbs : bs <+: as) {l : Nat} {p : PreparedCall}
    (h : (bs.filterMap Action.prepared?)[l]? = some p) :
  (as.filterMap Action.prepared?)[l]? = some p
  := by
  obtain ⟨hlength, rfl⟩ := List.getElem?_eq_some_iff.1 h
  apply List.prefix_iff_getElem?.1 (hbs.filterMap _)

/-! ### Submissions -/

/-- A run grants a submission and opens the given task for it. The calls that are prepared in
the run are numbered in their order. -/
structure Submits (client : Client) (as : List Action) (i : Nat) (s : Submission) : Prop where
  granted : ∃ bs a, bs ++ [a] <+: as ∧ (run client bs).Grants a s i
  prepared : (as.filterMap Action.prepared?)[s.feed]? = some s.prepared

variable {i : Nat} {s : Submission}

theorem Grants.submits {a : Action} (h : (run client as).Grants a s i) :
  Submits client (as ++ [a]) i s
  where
  granted := ⟨as, a, List.prefix_rfl, h⟩
  prepared := by
    have hprepared := h.prepared
    rw [prepared_run] at hprepared
    apply prepared_of_isPrefix (List.prefix_append as [a]) hprepared

/-- A submission stays one of the run when the run goes on. -/
theorem Submits.mono {bs : List Action} (h : Submits client bs i s) (hbs : bs <+: as) :
  Submits client as i s
  where
  granted := by
    obtain ⟨cs, a, hcs, hgrants⟩ := h.granted
    use cs, a, hcs.trans hbs
  prepared := prepared_of_isPrefix hbs h.prepared

end Executor

end Extrinsics
