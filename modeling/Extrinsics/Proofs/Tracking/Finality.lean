import Extrinsics.Proofs.Tracking.Keys

/-!
# Finality

A task writes nothing after the last update of its call. So a record that is finalized or
failed changes only when a second task takes an update about the same hash. The store does not
look at the status of a record before it writes, so then it may change, and it may go back to
an earlier status.
-/

namespace Extrinsics

/-- What an update makes of the record at its hash. -/
def Tracker.rewrite (t : Tracker) (now : BitVec 64) (u : Update) (old : Option Record) :
    Option Record :=
  Write.reviseAll u.key (writes (t.receive now u).1) old

theorem Tracker.reviseAll_receive (t : Tracker) (now : BitVec 64) (u : Update) (k : String)
    (old : Option Record) :
  Write.reviseAll k (writes (t.receive now u).1) old
    = if u.key = k then t.rewrite now u old else old
  := by
  split
  · rename_i hkey
    rw [rewrite, hkey]
  · rename_i hkey
    apply Write.reviseAll_of_forall_ne
    intro w hw
    rw [(key_of_mem_writes_receive hw).1]
    apply hkey

namespace Executor

/-- A task that takes an update writes to the hash that the update is about. -/
theorem record?_advance {x : Executor} {i : Nat} {t : Task} {u : Update}
    (h : x.tasks[i]? = some t) (hup : t.upcoming = some u) (now : BitVec 64) (k : String) :
  (x.perform (.advance now i)).store.snapshot.record? k
    = if u.key = k then t.tracker.rewrite now u (x.store.snapshot.record? k)
      else x.store.snapshot.record? k
  := by
  obtain ⟨rest, hrun, hqueue⟩ := Task.upcoming_eq_some hup
  have hstep := Task.step_of_upcoming hrun hqueue now
  obtain ⟨feeds, queue, tasks, hx, -⟩ := step_eq_some h hstep
  rw [perform, hx, Option.getD_some, Store.record?_foldl_write, Tracker.reviseAll_receive]

variable {client : Client} {as : List Action} {k : String} {r : Record}

/-- A record is terminal only after a task took the last update of its call. -/
theorem exists_isLast (hr : (run client as).store.snapshot.record? k = some r)
    (hterm : r.status.isTerminal) :
  ∃ j, ∃ e ∈ (history client as j).taken, e.2.key = k ∧ e.2.isLast
  := by
  rw [store_run, Store.record?_replay] at hr
  obtain ⟨w, hw, hkey, hends⟩ := Write.exists_ends hr hterm
  obtain ⟨j, hj⟩ := mem_writes_run client as hw
  obtain ⟨e, he, hkey', hlast⟩ := key_of_mem_writes hj
  use j, e, he
  rw [← hkey', hkey]
  use rfl, hlast hends

/-- A task that goes on has not taken the last update of a call. -/
theorem not_isLast_of_upcoming {i : Nat} {t : Task} {u : Update}
    (ht : (run client as).tasks[i]? = some t) (hup : t.upcoming = some u) :
  ∀ e ∈ (history client as i).taken, e.2.isLast = false
  := by
  obtain ⟨rest, hrun, -⟩ := Task.upcoming_eq_some hup
  apply Tracker.not_isLast_of_follow ((followed_run client as ht).live hrun).1

/-- An action reopens the record of a call when a task takes an update about the call and
rewrites the record, after another task took the last update of the call. -/
def Reopens (client : Client) (as : List Action) (k : String) (r : Record) (a : Action) : Prop :=
  ∃ now i t u, a = .advance now i ∧ (run client as).tasks[i]? = some t ∧ t.upcoming = some u
    ∧ u.key = k ∧ t.tracker.rewrite now u (some r) ≠ some r
    ∧ ∃ j ≠ i, ∃ e ∈ (history client as j).taken, e.2.key = k ∧ e.2.isLast

/-- A terminal record changes exactly when it is reopened. -/
theorem record?_ne_iff (hr : (run client as).store.snapshot.record? k = some r)
    (hterm : r.status.isTerminal) (a : Action) :
  (run client (as ++ [a])).store.snapshot.record? k ≠ some r ↔ Reopens client as k r a
  := by
  rw [run_concat]
  constructor
  · intro hchange
    rcases (run client as).store_perform a with hstore | ⟨now, i, t, u, rfl, ht, hup⟩
    · rw [hstore] at hchange
      exact (hchange hr).elim
    · rw [record?_advance ht hup, hr] at hchange
      have hkey : u.key = k := by
        by_contra hne
        apply hchange (if_neg hne)
      rw [if_pos hkey] at hchange
      obtain ⟨j, e, he, hekey, hlast⟩ := exists_isLast hr hterm
      use now, i, t, u, rfl, ht, hup, hkey, hchange, j
      constructor
      · rintro rfl
        rw [not_isLast_of_upcoming ht hup e he] at hlast
        cases hlast
      · use e
  · rintro ⟨now, i, t, u, rfl, ht, hup, hkey, hrewrite, -⟩
    rw [record?_advance ht hup, hr, if_pos hkey]
    apply hrewrite

/-- A terminal record stays as it is when only one task takes updates about its hash. -/
theorem record?_of_unique (hr : (run client as).store.snapshot.record? k = some r)
    (hterm : r.status.isTerminal) (bs : List Action)
    (hunique : ∀ i j, ∀ e ∈ (history client (as ++ bs) i).taken,
      ∀ e' ∈ (history client (as ++ bs) j).taken, e.2.key = k → e'.2.key = k → i = j) :
  (run client (as ++ bs)).store.snapshot.record? k = some r
  := by
  induction bs using List.reverseRecOn with
  | nil => rwa [List.append_nil]
  | append_singleton bs a ih =>
    rw [← List.append_assoc] at hunique ⊢
    have htaken (i : Nat) : (history client (as ++ bs ++ [a]) i).taken
        = (history client (as ++ bs) i).taken ++ ((run client (as ++ bs)).part i a).taken := by
      rw [history_concat]
      rfl
    have hbefore := ih (fun i j e he e' he' => hunique i j
      e (htaken i ▸ List.mem_append_left _ he) e' (htaken j ▸ List.mem_append_left _ he'))
    by_contra hchange
    obtain ⟨now, i, t, u, rfl, ht, hup, hkey, -, j, hj, e, he, hekey, -⟩ :=
      (record?_ne_iff hbefore hterm a).1 hchange
    apply hj
    apply hunique j i e (htaken j ▸ List.mem_append_left _ he) (now, u) _ hekey hkey
    rw [htaken]
    apply List.mem_append_right
    rw [part, if_pos rfl, ht, Option.bind_some, hup]
    apply List.mem_singleton_self

/-- A terminal record stays as it is for as long as it is not reopened. -/
theorem record?_iff (hr : (run client as).store.snapshot.record? k = some r)
    (hterm : r.status.isTerminal) (bs : List Action) :
  (∀ cs, cs <+: bs → (run client (as ++ cs)).store.snapshot.record? k = some r)
    ↔ ∀ cs a, cs ++ [a] <+: bs → ¬ Reopens client (as ++ cs) k r a
  := by
  constructor
  · intro hstays cs a hcs hreopens
    have hbefore := hstays cs ((List.prefix_append cs [a]).trans hcs)
    apply (record?_ne_iff hbefore hterm a).2 hreopens
    rw [List.append_assoc]
    apply hstays (cs ++ [a]) hcs
  · intro hnone cs
    induction cs using List.reverseRecOn with
    | nil =>
      intro _
      rwa [List.append_nil]
    | append_singleton cs a ih =>
      intro hcs
      have hbefore := ih ((List.prefix_append cs [a]).trans hcs)
      by_contra hchange
      rw [← List.append_assoc] at hchange
      apply hnone cs a hcs ((record?_ne_iff hbefore hterm a).1 hchange)

/-- A terminal record stays as it is exactly for as long as it is not reopened. It is not
reopened when only one task takes updates about its hash. -/
theorem terminal_record (hr : (run client as).store.snapshot.record? k = some r)
    (hterm : r.status.isTerminal) (bs : List Action) :
  ((∀ cs, cs <+: bs → (run client (as ++ cs)).store.snapshot.record? k = some r)
      ↔ ∀ cs a, cs ++ [a] <+: bs → ¬ Reopens client (as ++ cs) k r a)
    ∧ ((∀ i j, ∀ e ∈ (history client (as ++ bs) i).taken,
        ∀ e' ∈ (history client (as ++ bs) j).taken, e.2.key = k → e'.2.key = k → i = j) →
      (run client (as ++ bs)).store.snapshot.record? k = some r)
  := by
  constructor
  · apply record?_iff hr hterm
  · apply record?_of_unique hr hterm

/-- The record of a claim that was submitted twice goes back from finalized to included. -/
theorem not_final_twinRun :
  let more : List Action := [.send 1 (.ofStatus "0xABC" (.inBlock "0xB1")), .advance 4 1]
  ∃ r, (run Samples.client Samples.twinRun).store.snapshot.record? "0xabc" = some r
    ∧ r.status.isTerminal
    ∧ ∃ r', (run Samples.client (Samples.twinRun ++ more)).store.snapshot.record? "0xabc" = some r'
      ∧ r'.status = .inBlock
  := ⟨_, rfl, rfl, _, rfl, rfl⟩

theorem terminal_record_twinRun :
  ∃ r, (run Samples.client
      (Samples.twinRun ++ [.send 1 (.ofStatus "0xABC" (.inBlock "0xB1"))])).store.snapshot.record?
        "0xabc" = some r
    ∧ r.status.isTerminal
    ∧ Reopens Samples.client (Samples.twinRun ++ [.send 1 (.ofStatus "0xABC" (.inBlock "0xB1"))])
      "0xabc" r (.advance 4 1)
  := by
  obtain ⟨r, hr, hterm⟩ : ∃ r, (run Samples.client
      (Samples.twinRun ++ [.send 1 (.ofStatus "0xABC" (.inBlock "0xB1"))])).store.snapshot.record?
        "0xabc" = some r ∧ r.status = .finalized := ⟨_, rfl, rfl⟩
  have hterm' : r.status.isTerminal := by
    rw [hterm]
    rfl
  use r, hr, hterm'
  by_contra hnone
  have hsame := (terminal_record hr hterm' [.advance 4 1]).1.2 ?_ [.advance 4 1] List.prefix_rfl
  · have hstatus := congrArg (Option.map Record.status) hsame
    rw [Option.map_some, hterm] at hstatus
    cases hstatus
  · intro cs a hcs
    have hnil : cs = [] := by
      have hlength := hcs.length_le
      rw [List.length_append, List.length_singleton, List.length_singleton] at hlength
      apply List.eq_nil_of_length_eq_zero
      omega
    subst hnil
    obtain ⟨rest, hrest⟩ := hcs
    cases hrest
    apply hnone

end Executor

end Extrinsics
