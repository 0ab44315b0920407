import Extrinsics.Proofs.Store.Watching
import Extrinsics.Samples

/-!
# Values that observers keep

The value that a derived observer keeps is that of some earlier snapshot, and the observer
remembers the stamp of that snapshot. It is stale exactly when a snapshot was published since
the observer was made or read. So a reading, which computes a stale value again, always gives
the value of the current snapshot.
-/

namespace Extrinsics

namespace Derived

variable {α : Type} {f : Snapshot → Signature → α} {m : Snapshot} {s : Store} {d : Derived α}

/-- An observer that computes a certain value and keeps that of a snapshot. -/
structure IsOf (f : Snapshot → Signature → α) (m : Snapshot) (d : Derived α) : Prop where
  compute : d.compute = f
  source : d.source = m.stamp
  value : d.value = f m d.signature

theorem isOf_ofStore (f : Snapshot → Signature → α) (s : Store) (seen : Nat)
    (signature : Signature) :
  IsOf f s.snapshot (ofStore f s seen signature)
  := ⟨rfl, rfl, rfl⟩

theorem IsOf.isStale_iff (h : d.IsOf f m) :
  d.isStale s ↔ s.snapshot.stamp ≠ m.stamp
  := by
  rw [isStale, h.source, bne_iff_ne]

theorem signature_refresh (d : Derived α) (s : Store) :
  (d.refresh s).signature = d.signature
  := by
  rw [Derived.refresh]
  split <;> rfl

theorem seen_refresh (d : Derived α) (s : Store) :
  (d.refresh s).seen = s.snapshot.stamp
  := by
  rw [Derived.refresh]
  split <;> rfl

/-- A reading leaves the value of the current snapshot, when stamps tell snapshots apart. -/
theorem IsOf.refresh (h : d.IsOf f m) (hm : s.snapshot.stamp = m.stamp → s.snapshot = m) :
  (d.refresh s).IsOf f s.snapshot
  := by
  rw [Derived.refresh]
  split
  · refine ⟨h.compute, rfl, ?_⟩
    dsimp only
    rw [h.compute]
  · rename_i hfresh
    rw [h.isStale_iff, not_not] at hfresh
    rw [hm hfresh]
    exact ⟨h.compute, h.source, h.value⟩

/-- A reading computes the value: what it gives does not depend on what was kept. -/
def Recomputes (s : Store) (d : Derived α) : Prop :=
  ∀ v, ({ d with value := v }.refresh s).value = d.compute s.snapshot d.signature

/-- What a reading gives when another value was kept. -/
theorem value_refresh (s : Store) (d : Derived α) (v : α) :
  ({ d with value := v }.refresh s).value
    = if d.isStale s then d.compute s.snapshot d.signature else v
  := by
  rw [Derived.refresh]
  apply apply_ite Derived.value

theorem recomputes_iff [Nontrivial α] (s : Store) (d : Derived α) :
  d.Recomputes s ↔ d.isStale s
  := by
  constructor
  · intro h
    by_contra hfresh
    -- Another value would be kept as well.
    obtain ⟨v, hv⟩ := exists_ne (d.compute s.snapshot d.signature)
    apply hv
    rw [← h v, value_refresh, if_neg hfresh]
  · intro hstale v
    rw [value_refresh, if_pos hstale]

end Derived

/-- There is a list of records other than the empty one. -/
instance : Nontrivial (List Record) where
  exists_pair_ne := ⟨[], [.ready "" ⟨"", "", .null⟩ "" false 0], nofun⟩

namespace Observer

variable {m : Snapshot} {s : Store} {o : Observer}

/-- An observer whose value, if it keeps one, is that of a snapshot. -/
def IsOf (m : Snapshot) : Observer → Prop
  | pending d => d.IsOf Snapshot.isPending m
  | calls d => d.IsOf Snapshot.calls m
  | _ => True

/-- A reading of an observer computes its value, rather than give the one that is kept. -/
def Recomputes (s : Store) : Observer → Prop
  | pending d => d.Recomputes s
  | calls d => d.Recomputes s
  | _ => False

theorem isOf_observe (t : Topic) (s : Store) (seen : Nat) :
  (t.observe s seen).IsOf s.snapshot
  := by
  cases t with
  | view => trivial
  | receiver => trivial
  | pending f => apply Derived.isOf_ofStore
  | calls f => apply Derived.isOf_ofStore

/-- A reading gives what the current snapshot has to tell. -/
theorem IsOf.get (h : o.IsOf m) (hm : s.snapshot.stamp = m.stamp → s.snapshot = m) :
  (o.get s).1 = o.topic.read s.snapshot ∧ (o.get s).2.IsOf s.snapshot
  := by
  cases o with
  | view seen => exact ⟨rfl, trivial⟩
  | receiver seen => exact ⟨rfl, trivial⟩
  | pending d =>
    have hrefresh := Derived.IsOf.refresh h hm
    refine ⟨congrArg Reading.flag ?_, hrefresh⟩
    rw [hrefresh.value, Derived.signature_refresh]
  | calls d =>
    have hrefresh := Derived.IsOf.refresh h hm
    refine ⟨congrArg Reading.records ?_, hrefresh⟩
    rw [hrefresh.value, Derived.signature_refresh]

theorem IsOf.poll (h : o.IsOf m) (s : Store) :
  (o.poll s).2.IsOf m
  := by
  cases o with
  | view seen => trivial
  | receiver seen => trivial
  | pending d => exact ⟨h.compute, h.source, h.value⟩
  | calls d => exact ⟨h.compute, h.source, h.value⟩

@[simp] theorem topic_get (s : Store) (o : Observer) :
  (o.get s).2.topic = o.topic
  := by
  cases o with
  | view seen => rfl
  | receiver seen => rfl
  | pending d => exact congrArg Topic.pending (d.signature_refresh s)
  | calls d => exact congrArg Topic.calls (d.signature_refresh s)

@[simp] theorem topic_poll (s : Store) (o : Observer) :
  (o.poll s).2.topic = o.topic
  := by
  cases o <;> rfl

theorem IsOf.isStale_iff (h : o.IsOf m) (hd : o.topic.IsDerived) :
  o.isStale s ↔ s.snapshot.stamp ≠ m.stamp
  := by
  cases o with
  | pending d => apply Derived.IsOf.isStale_iff h
  | calls d => apply Derived.IsOf.isStale_iff h
  | _ => cases hd

theorem recomputes_iff (hd : o.topic.IsDerived) :
  o.Recomputes s ↔ o.isStale s
  := by
  cases o with
  | pending d => apply Derived.recomputes_iff
  | calls d => apply Derived.recomputes_iff
  | _ => cases hd

end Observer

namespace Watch

variable {s : Watch} {i : Nat} {o : Observer} {a : Action} {as bs cs : List Action}

theorem topic_next (s : Watch) (i : Nat) (o : Observer) (a : Action) :
  (s.next i o a).topic = o.topic
  := by
  cases a with
  | get j =>
    rw [next]
    split
    · apply Observer.topic_get
    · rfl
  | poll j =>
    rw [next]
    split
    · apply Observer.topic_poll
    · rfl
  | _ => rfl

/-- An observer stays, and it goes on telling the same. -/
theorem exists_topic (h : bs <+: as) (ho : (run bs).observers[i]? = some o) :
  ∃ o', (run as).observers[i]? = some o' ∧ o'.topic = o.topic
  := by
  obtain ⟨cs, rfl⟩ := h
  induction cs using List.reverseRecOn with
  | nil =>
    rw [List.append_nil]
    use o, ho
  | append_singleton cs a ih =>
    obtain ⟨o', ho', htopic⟩ := ih
    rw [← List.append_assoc, run_concat]
    use (run (bs ++ cs)).next i o' a, getElem?_perform ho' a
    rw [topic_next, htopic]

/-- Only a reading replaces the value that an observer keeps. -/
theorem isOf_next {m : Snapshot} (h : o.IsOf m) (ha : a ≠ .get i) :
  (s.next i o a).IsOf m
  := by
  cases a with
  | get j =>
    rw [next, if_neg]
    · exact h
    · rintro rfl
      apply ha rfl
  | poll j =>
    rw [next]
    split
    · apply h.poll
    · exact h
  | _ => exact h

/-- The value that an observer keeps is that of an earlier snapshot, or of the current one. -/
theorem isOf_run (h : (run as).observers[i]? = some o) :
  ∃ bs, bs <+: as ∧ o.IsOf (run bs).store.snapshot
  := by
  induction as using List.reverseRecOn generalizing o with
  | nil => cases h
  | append_singleton as a ih =>
    rw [run_concat] at h
    rcases observer_cases h with ⟨o', ho'⟩ | ⟨t, view?, seen, rfl, horigin, rfl⟩
    · rw [getElem?_perform ho', Option.some.injEq] at h
      subst h
      obtain ⟨bs, hbs, hof⟩ := ih ho'
      by_cases ha : a = .get i
      · subst ha
        use as, List.prefix_append as _
        rw [next, if_pos rfl]
        apply (hof.get (snapshot_eq_of_stamp_eq hbs)).2
      · use bs, hbs.trans (List.prefix_append as _)
        apply isOf_next hof ha
    · rw [getElem?_observe horigin, Option.some.injEq] at h
      subst h
      use as, List.prefix_append as _
      apply Observer.isOf_observe

/-- An action makes the value of an observer anew: it makes the observer, or reads it. -/
def Renews (s : Watch) (i : Nat) : Action → Prop
  | .observe _ view? => i = s.observers.length ∧ (s.origin? view?).isSome
  | .get j => j = i ∧ i < s.observers.length
  | _ => False

/-- A part of a history ends just before an observer was made or read, and after that the
observer was not read. -/
def LastRenewed (i : Nat) (bs as : List Action) : Prop :=
  ∃ a cs, as = bs ++ a :: cs ∧ (run bs).Renews i a ∧ .get i ∉ cs

/-- Every observer was made or read a last time. -/
theorem exists_lastRenewed (h : (run as).observers[i]? = some o) :
  ∃ bs, LastRenewed i bs as
  := by
  induction as using List.reverseRecOn generalizing o with
  | nil => cases h
  | append_singleton as a ih =>
    rw [run_concat] at h
    rcases observer_cases h with ⟨o', ho'⟩ | ⟨t, view?, seen, rfl, horigin, hi⟩
    · by_cases ha : a = .get i
      · subst ha
        use as, .get i, [], rfl, ⟨rfl, (List.getElem?_eq_some_iff.1 ho').1⟩
        apply List.not_mem_nil
      · obtain ⟨bs, b, cs, rfl, hb, hcs⟩ := ih ho'
        use bs, b, cs ++ [a], List.append_assoc .., hb
        intro hmem
        rcases List.mem_append.1 hmem with hmem | hmem
        · apply hcs hmem
        · apply ha (List.mem_singleton.1 hmem).symm
    · use as, .observe t view?, [], rfl, ⟨hi, Option.isSome_iff_exists.2 ⟨seen, horigin⟩⟩
      apply List.not_mem_nil

/-- An observer is there after it was renewed, with the value of the current snapshot. -/
theorem isOf_renews (ha : (run as).Renews i a) :
  ∃ o, (run (as ++ [a])).observers[i]? = some o ∧ o.IsOf (run as).store.snapshot
  := by
  rw [run_concat]
  cases a with
  | observe t view? =>
    obtain ⟨rfl, hsome⟩ := ha
    obtain ⟨seen, horigin⟩ := Option.isSome_iff_exists.1 hsome
    use t.observe (run as).store seen, getElem?_observe horigin
    apply Observer.isOf_observe
  | get j =>
    obtain ⟨rfl, hlt⟩ := ha
    have ho := List.getElem?_eq_getElem hlt
    obtain ⟨bs, hbs, hof⟩ := isOf_run ho
    use (run as).next j (run as).observers[j] (.get j), getElem?_perform ho _
    rw [next, if_pos rfl]
    apply (hof.get (snapshot_eq_of_stamp_eq hbs)).2
  | _ => cases ha

/-- An observer keeps the value of the snapshot at which it was last renewed. -/
theorem LastRenewed.exists_isOf (h : LastRenewed i bs as) :
  ∃ o, (run as).observers[i]? = some o ∧ o.IsOf (run bs).store.snapshot
  := by
  obtain ⟨a, cs, rfl, ha, hcs⟩ := h
  induction cs using List.reverseRecOn with
  | nil => apply isOf_renews ha
  | append_singleton cs b ih =>
    rw [List.mem_append, not_or, List.mem_singleton] at hcs
    obtain ⟨o, ho, hof⟩ := ih hcs.1
    rw [← List.cons_append, ← List.append_assoc, run_concat]
    use (run (bs ++ a :: cs)).next i o b, getElem?_perform ho b
    apply isOf_next hof
    rintro rfl
    apply hcs.2 rfl

theorem LastRenewed.isPrefix (h : LastRenewed i bs as) :
  bs <+: as
  := by
  obtain ⟨a, cs, rfl, -⟩ := h
  apply List.prefix_append

/-- An observer tells what it was made to tell. -/
theorem exists_observe (h : (run as).observers[i]? = some o) :
  ∃ bs view? cs, as = bs ++ .observe o.topic view? :: cs
    ∧ (run bs).Renews i (.observe o.topic view?)
  := by
  induction as using List.reverseRecOn generalizing o with
  | nil => cases h
  | append_singleton as a ih =>
    rw [run_concat] at h
    rcases observer_cases h with ⟨o', ho'⟩ | ⟨t, view?, seen, rfl, horigin, rfl⟩
    · rw [getElem?_perform ho', Option.some.injEq] at h
      subst h
      obtain ⟨bs, view?, cs, has, hmade⟩ := ih ho'
      rw [topic_next]
      use bs, view?, cs ++ [a]
      constructor
      · rw [has]
        apply List.append_assoc
      · exact hmade
    · rw [getElem?_observe horigin, Option.some.injEq] at h
      subst h
      rw [Topic.topic_observe]
      use as, view?, [], rfl, rfl
      apply Option.isSome_iff_exists.2 ⟨seen, horigin⟩

theorem LastRenewed.isStale_iff (h : LastRenewed i bs as) (ho : (run as).observers[i]? = some o)
    (hd : o.topic.IsDerived) :
  o.isStale (run as).store ↔ Published bs as
  := by
  obtain ⟨o', ho', hof⟩ := h.exists_isOf
  rw [ho, Option.some.injEq] at ho'
  subst ho'
  rw [hof.isStale_iff hd, published_iff h.isPrefix]

/-- In every history, a reading of an observer gives what the current snapshot has to tell of
the topic for which the observer was made. An observer that keeps a value is stale exactly when
a snapshot was published since it was made or last read, and exactly then a reading computes
the value again. -/
theorem memo_run (as : List Action) (h : (run as).observers[i]? = some o) :
  (o.get (run as).store).1 = o.topic.read (run as).store.snapshot
    ∧ (∃ bs view? cs, as = bs ++ .observe o.topic view? :: cs
      ∧ (run bs).Renews i (.observe o.topic view?))
    ∧ (o.topic.IsDerived →
      (∃ bs, LastRenewed i bs as)
        ∧ (∀ bs, LastRenewed i bs as → (o.isStale (run as).store ↔ Published bs as))
        ∧ (o.Recomputes (run as).store ↔ o.isStale (run as).store))
  := by
  refine ⟨?_, exists_observe h, ?_⟩
  · obtain ⟨bs, hbs, hof⟩ := isOf_run h
    apply (hof.get (snapshot_eq_of_stamp_eq hbs)).1
  · intro hd
    refine ⟨exists_lastRenewed h, ?_, Observer.recomputes_iff hd⟩
    intro bs hbs
    apply hbs.isStale_iff h hd

end Watch

namespace Samples

/-- The signature of transfers by Alice. -/
def transferOfAlice : Signature := ⟨transfer.method, transfer.pallet, alice⟩

/-- An observer of transfers by Alice, made of a view, is read after a transfer has begun. Then
a block includes the transfer, and the store is dropped. -/
def watchedRun : List Watch.Action :=
  [.observe .view none, .observe (.pending transferOfAlice) (some 0),
    .write (.add "0xabc" (.ready "0xabc" transfer alice true 0)), .get 1,
    .write (.block "0xabc" "0xb1"), .write (.status "0xdef" .finalized), .drop]

end Samples

namespace Watch

theorem memo_watchedRun :
  ∃ o, (run Samples.watchedRun).observers[1]? = some o
    ∧ o.Recomputes (run Samples.watchedRun).store
    ∧ (o.get (run Samples.watchedRun).store).1 = .flag true
  := by
  obtain ⟨o, ho, hd, hstale⟩ : ∃ o, (run Samples.watchedRun).observers[1]? = some o
      ∧ o.topic = .pending Samples.transferOfAlice
      ∧ o.isStale (run Samples.watchedRun).store := ⟨_, rfl, rfl, rfl⟩
  obtain ⟨hread, -, hderived⟩ := memo_run Samples.watchedRun ho
  rw [hd] at hread hderived
  use o, ho, (hderived trivial).2.2.2 hstale
  rw [hread]
  rfl

end Watch

end Extrinsics
