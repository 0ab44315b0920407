import Extrinsics.Proofs.Store.Memo

/-!
# The arrival of snapshots

Each observer has seen what was published up to some point of the history. A new observer of the
store has seen the current snapshot, and one that is made of a view has seen what the view has.
A reading, unless it is of a view, and a look that finds a new snapshot move the point on. A
look finds a new snapshot exactly when one was published after that point, so that no snapshot
is missed and no look finds one for nothing.
-/

namespace Extrinsics

theorem Store.fst_poll (s : Store) (seen : Nat) :
  (s.poll seen).1
    = if s.snapshot.stamp ≠ seen then .changed else if s.isLive then .pending else .gone
  := by
  rw [poll]
  split_ifs <;> rfl

namespace Observer

variable {s : Store} {o : Observer}

theorem fst_poll (s : Store) (o : Observer) : (o.poll s).1 = (s.poll o.seen).1 := rfl

theorem snd_poll (s : Store) (o : Observer) : (o.poll s).2 = o.mark (s.poll o.seen).2 := rfl

/-- A look finds a snapshot that has another stamp than the one last seen. -/
theorem poll_eq_changed_iff :
  (o.poll s).1 = .changed ↔ s.snapshot.stamp ≠ o.seen
  := by
  rw [fst_poll, Store.fst_poll]
  by_cases hseen : s.snapshot.stamp = o.seen <;> cases s.isLive <;> simp [hseen]

theorem poll_eq_pending_iff :
  (o.poll s).1 = .pending ↔ (o.poll s).1 ≠ .changed ∧ s.isLive
  := by
  rw [fst_poll, Store.fst_poll]
  by_cases hseen : s.snapshot.stamp = o.seen <;> cases s.isLive <;> simp [hseen]

theorem poll_eq_gone_iff :
  (o.poll s).1 = .gone ↔ (o.poll s).1 ≠ .changed ∧ ¬ s.isLive
  := by
  rw [fst_poll, Store.fst_poll]
  by_cases hseen : s.snapshot.stamp = o.seen <;> cases s.isLive <;> simp [hseen]

@[simp] theorem seen_mark (n : Nat) (o : Observer) :
  (o.mark n).seen = n
  := by
  cases o <;> rfl

/-- A look that finds a snapshot marks it as seen. -/
theorem seen_poll (s : Store) (o : Observer) :
  (o.poll s).2.seen = if (o.poll s).1 = .changed then s.snapshot.stamp else o.seen
  := by
  rw [snd_poll, seen_mark, fst_poll, Store.poll]
  split_ifs <;> simp_all

/-- A reading marks the current snapshot as seen, unless it is of a view. -/
theorem seen_get (s : Store) (o : Observer) :
  (o.get s).2.seen = if o.topic = .view then o.seen else s.snapshot.stamp
  := by
  cases o with
  | view seen => rfl
  | receiver seen => rfl
  | pending d => apply d.seen_refresh
  | calls d => apply d.seen_refresh

end Observer

namespace Watch

variable {s : Watch} {i : Nat} {o : Observer} {a : Action} {as bs : List Action}

/-- An action marks the current snapshot as seen by an observer: a reading, unless it is of a
view, or a look that finds a new snapshot. -/
def Marks (s : Watch) (i : Nat) : Action → Prop
  | .get j => j = i ∧ ∃ o, s.observers[i]? = some o ∧ o.topic ≠ .view
  | .poll j => j = i ∧ ∃ o, s.observers[i]? = some o ∧ (o.poll s.store).1 = .changed
  | _ => False

/-- An observer has seen what was published in a history up to the end of a part of it. -/
inductive SeenTo : List Action → Nat → List Action → Prop where
  /-- A new observer of the store has seen the current snapshot. -/
  | fresh {as : List Action} {t : Topic} (h : ((run as).origin? none).isSome) :
    SeenTo (as ++ [.observe t none]) (run as).observers.length as
  /-- A new observer that is made of a view has seen what the view has. -/
  | inherited {as bs : List Action} {t : Topic} {j : Nat}
      (h : ((run as).origin? (some j)).isSome) (hseen : SeenTo as j bs) :
    SeenTo (as ++ [.observe t (some j)]) (run as).observers.length bs
  | marked {as : List Action} {i : Nat} {a : Action} (h : (run as).Marks i a) :
    SeenTo (as ++ [a]) i as
  | kept {as bs : List Action} {i : Nat} {a : Action} (h : ¬ (run as).Marks i a)
      (hseen : SeenTo as i bs) :
    SeenTo (as ++ [a]) i bs

theorem seen_of_marks (h : s.Marks i a) :
  ∃ o, (s.perform a).observers[i]? = some o ∧ o.seen = s.store.snapshot.stamp
  := by
  cases a with
  | get j =>
    obtain ⟨rfl, o, ho, hview⟩ := h
    use s.next j o (.get j), getElem?_perform ho _
    rw [next, if_pos rfl, Observer.seen_get, if_neg hview]
  | poll j =>
    obtain ⟨rfl, o, ho, hchanged⟩ := h
    use s.next j o (.poll j), getElem?_perform ho _
    rw [next, if_pos rfl, Observer.seen_poll, if_pos hchanged]
  | _ => cases h

theorem seen_of_not_marks (h : ¬ s.Marks i a) (ho : s.observers[i]? = some o) :
  (s.next i o a).seen = o.seen
  := by
  cases a with
  | get j =>
    rw [next]
    split_ifs with hj
    · rw [Observer.seen_get, ite_eq_left_iff]
      intro hview
      apply (h ⟨hj, o, ho, hview⟩).elim
    · rfl
  | poll j =>
    rw [next]
    split_ifs with hj
    · rw [Observer.seen_poll, if_neg]
      intro hchanged
      apply h ⟨hj, o, ho, hchanged⟩
    · rfl
  | _ => rfl

/-- The stamp that an observer has seen is that of the point up to which it has seen. -/
theorem SeenTo.exists_seen (h : SeenTo as i bs) :
  bs <+: as ∧ ∃ o, (run as).observers[i]? = some o ∧ o.seen = (run bs).store.snapshot.stamp
  := by
  induction h with
  | @fresh as t h =>
    use List.prefix_append as _
    obtain ⟨seen, horigin⟩ := Option.isSome_iff_exists.1 h
    use t.observe (run as).store seen
    rw [run_concat, getElem?_observe horigin, Topic.seen_observe]
    use rfl
    rw [origin?] at horigin
    split_ifs at horigin
    exact (Option.some.inj horigin).symm
  | @inherited as bs t j h hseen ih =>
    obtain ⟨hbs, o, ho, hstamp⟩ := ih
    use hbs.trans (List.prefix_append as _)
    obtain ⟨seen, horigin⟩ := Option.isSome_iff_exists.1 h
    use t.observe (run as).store seen
    rw [run_concat, getElem?_observe horigin, Topic.seen_observe]
    use rfl
    rw [← hstamp]
    rw [origin?, ho] at horigin
    cases o with
    | view seen' => exact (Option.some.inj horigin).symm
    | _ => cases horigin
  | @marked as i a h =>
    use List.prefix_append as _
    rw [run_concat]
    apply seen_of_marks h
  | @kept as bs i a h hseen ih =>
    obtain ⟨hbs, o, ho, hstamp⟩ := ih
    use hbs.trans (List.prefix_append as _)
    use (run as).next i o a
    rw [run_concat, getElem?_perform ho, seen_of_not_marks h ho]
    use rfl

theorem exists_of_origin? {j : Nat} (h : (s.origin? (some j)).isSome) :
  ∃ o, s.observers[j]? = some o
  := by
  rw [origin?] at h
  cases ho : s.observers[j]? with
  | some o => use o
  | none =>
    rw [ho] at h
    cases h

/-- Every observer has seen what was published up to some point. -/
theorem exists_seenTo (h : (run as).observers[i]? = some o) :
  ∃ bs, SeenTo as i bs
  := by
  induction as using List.reverseRecOn generalizing i o with
  | nil => cases h
  | append_singleton as a ih =>
    rw [run_concat] at h
    rcases observer_cases h with ⟨o', ho'⟩ | ⟨t, view?, seen, rfl, horigin, rfl⟩
    · by_cases ha : (run as).Marks i a
      · use as, .marked ha
      · obtain ⟨bs, hbs⟩ := ih ho'
        use bs, .kept ha hbs
    · have hsome := Option.isSome_iff_exists.2 ⟨seen, horigin⟩
      cases view? with
      | none => use as, .fresh hsome
      | some j =>
        obtain ⟨o', ho'⟩ := exists_of_origin? hsome
        obtain ⟨bs, hbs⟩ := ih ho'
        use bs, .inherited hsome hbs

theorem SeenTo.poll_eq_changed_iff (h : SeenTo as i bs) (ho : (run as).observers[i]? = some o) :
  (o.poll (run as).store).1 = .changed ↔ Published bs as
  := by
  obtain ⟨hbs, o', ho', hseen⟩ := h.exists_seen
  rw [ho, Option.some.injEq] at ho'
  subst ho'
  rw [Observer.poll_eq_changed_iff, published_iff hbs, hseen]

theorem not_marks (hget : a ≠ .get i) (hpoll : a = .poll i → ¬ s.Marks i a) :
  ¬ s.Marks i a
  := by
  intro hmarks
  cases a with
  | get j =>
    obtain ⟨rfl, -⟩ := hmarks
    apply hget rfl
  | poll j =>
    obtain ⟨rfl, -⟩ := id hmarks
    apply hpoll rfl hmarks
  | _ => cases hmarks

/-- An observer that is made, or read unless it is a view, has then seen no more than there
is. -/
theorem exists_seenTo_of_renews (ha : (run as).Renews i a)
    (hview : ∀ o, (run as).observers[i]? = some o → o.topic ≠ .view) :
  ∃ bs, bs <+: as ∧ SeenTo (as ++ [a]) i bs
  := by
  cases a with
  | get j =>
    obtain ⟨rfl, hlt⟩ := ha
    have ho := List.getElem?_eq_getElem hlt
    have hmarks : (run as).Marks j (.get j) := ⟨rfl, _, ho, hview _ ho⟩
    use as, List.prefix_rfl, .marked hmarks
  | observe t view? =>
    obtain ⟨rfl, hsome⟩ := ha
    cases view? with
    | none => use as, List.prefix_rfl, .fresh hsome
    | some j =>
      obtain ⟨o, ho⟩ := exists_of_origin? hsome
      obtain ⟨bs, hbs⟩ := exists_seenTo ho
      use bs, hbs.exists_seen.1, .inherited hsome hbs
  | _ => cases ha

/-- As long as no look finds a snapshot, an observer has seen no more than what was there when
it was last made or read. -/
theorem LastRenewed.exists_seenTo (h : LastRenewed i bs as)
    (hpoll : ∀ cs, bs <+: cs → cs ++ [.poll i] <+: as → ¬ (run cs).Marks i (.poll i))
    (hview : ∀ o, (run bs).observers[i]? = some o → o.topic ≠ .view) :
  ∃ cs, cs <+: bs ∧ SeenTo as i cs
  := by
  obtain ⟨a, cs, rfl, ha, hcs⟩ := h
  induction cs using List.reverseRecOn with
  | nil => apply exists_seenTo_of_renews ha hview
  | append_singleton cs b ih =>
    rw [List.mem_append, not_or, List.mem_singleton] at hcs
    rw [← List.cons_append, ← List.append_assoc] at hpoll ⊢
    obtain ⟨ds, hds, hseen⟩ := ih
      (fun es hes hes' => hpoll es hes (hes'.trans (List.prefix_append _ [b]))) hcs.1
    use ds, hds
    apply SeenTo.kept _ hseen
    apply not_marks
    · rintro rfl
      apply hcs.2 rfl
    · rintro rfl
      apply hpoll _ (List.prefix_append bs _) List.prefix_rfl

/-- A write that the snapshot does not take changes nothing. -/
theorem run_write {w : Write} (h : ¬ (run as).store.snapshot.Takes w) :
  run (as ++ [.write w]) = run as
  := by
  rw [run_concat, perform]
  split_ifs
  · rw [Store.write_of_not_takes h]
  · rfl

/-- In every history, a look of an observer finds a new snapshot exactly when one was published
after the point up to which the observer has seen. Else it waits, unless the store is gone. A
write to a record that is not there wakes nobody. When the value of an observer is stale, and no
look has found a snapshot since the observer was made or last read, the next look finds one,
also when the store is gone. -/
theorem arrivals_run (as : List Action) (h : (run as).observers[i]? = some o) :
  (∃ bs, SeenTo as i bs)
    ∧ (∀ bs, SeenTo as i bs →
      ((o.poll (run as).store).1 = .changed ↔ Published bs as)
        ∧ ((o.poll (run as).store).1 = .pending ↔ ¬ Published bs as ∧ (run as).store.isLive)
        ∧ ((o.poll (run as).store).1 = .gone ↔ ¬ Published bs as ∧ ¬ (run as).store.isLive))
    ∧ (∀ w, ¬ (run as).store.snapshot.Takes w → run (as ++ [.write w]) = run as)
    ∧ ∀ bs, LastRenewed i bs as → o.topic.IsDerived → o.isStale (run as).store →
      (∀ cs, bs <+: cs → cs ++ [.poll i] <+: as → ¬ (run cs).Marks i (.poll i)) →
      (o.poll (run as).store).1 = .changed
  := by
  refine ⟨exists_seenTo h, ?_, fun w => run_write, ?_⟩
  · intro bs hbs
    have hchanged := hbs.poll_eq_changed_iff h
    use hchanged
    rw [Observer.poll_eq_pending_iff, Observer.poll_eq_gone_iff, Ne, hchanged]
    exact ⟨Iff.rfl, Iff.rfl⟩
  · intro bs hbs hd hstale hpoll
    have hview (o' : Observer) (ho' : (run bs).observers[i]? = some o') : o'.topic ≠ .view := by
      obtain ⟨o'', ho'', htopic⟩ := exists_topic hbs.isPrefix ho'
      rw [h, Option.some.injEq] at ho''
      subst ho''
      rw [← htopic]
      intro hview
      rw [hview] at hd
      cases hd
    obtain ⟨cs, hcs, hseen⟩ := hbs.exists_seenTo hpoll hview
    apply (hseen.poll_eq_changed_iff h).2
    apply Published.mono_left _ hcs
    apply (hbs.isStale_iff h hd).1 hstale

/-- A look finds the last snapshot of a store that is gone. -/
theorem arrivals_watchedRun :
  ∃ o, (run Samples.watchedRun).observers[1]? = some o
    ∧ (run Samples.watchedRun).store.isLive = false
    ∧ (o.poll (run Samples.watchedRun).store).1 = .changed
  := by
  obtain ⟨o, ho, hd, hstale⟩ : ∃ o, (run Samples.watchedRun).observers[1]? = some o
      ∧ o.topic = .pending Samples.transferOfAlice
      ∧ o.isStale (run Samples.watchedRun).store := ⟨_, rfl, rfl, rfl⟩
  have hrenewed : LastRenewed 1 (Samples.watchedRun.take 3) Samples.watchedRun :=
    ⟨.get 1, Samples.watchedRun.drop 4, rfl, ⟨rfl, by decide⟩, by simp [Samples.watchedRun]⟩
  obtain ⟨-, -, -, hnext⟩ := arrivals_run Samples.watchedRun ho
  use o, ho, rfl
  apply hnext _ hrenewed (by rw [hd]; trivial) hstale
  intro cs hcs hpoll
  have hmem : .poll 1 ∈ Samples.watchedRun :=
    hpoll.subset (List.mem_append_right cs List.mem_cons_self)
  simp [Samples.watchedRun] at hmem

end Watch

end Extrinsics
