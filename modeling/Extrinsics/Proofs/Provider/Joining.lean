import Extrinsics.Proofs.Provider.Acceptance
import Extrinsics.Proofs.Provider.Attempts

/-!
# Waiting for the attempts of a mount

A mount begins one attempt for each supported chain, and hands out the numbers of their jobs.
Whoever has them can wait for the attempts or abort them. Attempts end in any order and in any way.
A wait reports those that have ended by themselves, in the order of the configuration. An abort is
final: after it no attempt ends, so that nothing becomes known of a chain any more.
-/

namespace Extrinsics

open Provider (Attempt)

namespace Scenario

variable {s t u : Scenario}

/-- The attempts that mounting starts, with the numbers of their jobs. -/
def mounted (s : Scenario) : List (Attempt × Nat) :=
  (Provider.attempts s.provider.config).zip s.mount.2

theorem map_snd_mounted (s : Scenario) :
  s.mounted.map Prod.snd = s.mount.2
  := by
  apply List.map_snd_zip
  simp [mount, spawn]

theorem map_fst_mounted (s : Scenario) :
  s.mounted.map Prod.fst = Provider.attempts s.provider.config
  := by
  apply List.map_fst_zip
  simp [mount, spawn]

theorem exists_mem_mounted {i : Nat} (h : i ∈ s.mount.2) :
  ∃ a, (a, i) ∈ s.mounted
  := by
  rw [← map_snd_mounted] at h
  obtain ⟨⟨a, k⟩, hx, rfl⟩ := List.mem_map.1 h
  use a

theorem mem_mount_of_mem_mounted {x : Attempt × Nat} (h : x ∈ s.mounted) :
  x.2 ∈ s.mount.2
  := by
  rw [← map_snd_mounted]
  apply List.mem_map_of_mem h

/-- A history that follows a mount tells of all attempts: what has become of them, and that
nothing is known of a chain for which none of them has ended. Other jobs are no attempts. -/
structure Tells (s : Scenario) (es : List Event) (t : Scenario) : Prop where
  fate? : ∀ x ∈ s.mounted, t.fate? x.2 = some (fateAfter es x.2 x.1)
  mem : ∀ i, t.fate? i ≠ none → i ∈ s.mount.2
  result? : ∀ i r, Event.ends i r ∈ es → resultAfter? es i = some r
  progress : ∀ kind chain,
    (∀ x ∈ s.mounted, x.1.kind = kind → x.1.chain = chain → resultAfter? es x.2 = none) →
      t.progress kind chain = s.progress kind chain

theorem jobs_mount (s : Scenario) :
  s.mount.1.jobs
    = s.jobs ++ (Provider.attempts s.provider.config).map fun a => .attempting a false
  := rfl

theorem tells_mount (h : ∀ i, s.fate? i = none) :
  Tells s [] s.mount.1
  := by
  refine ⟨?_, ?_, fun i r => (List.not_mem_nil · |>.elim), fun _ _ _ => rfl⟩
  · intro x hx
    obtain ⟨k, hk⟩ := List.mem_iff_getElem?.1 hx
    obtain ⟨ha, hi⟩ := List.getElem?_zip_eq_some.1 hk
    have hjob : s.mount.1.jobs[x.2]? = some (.attempting x.1 false) := by
      simp only [mount, spawn, List.length_map] at hi
      obtain ⟨hlt, hnumber⟩ := List.getElem?_eq_some_iff.1 hi
      rw [List.getElem_range', Nat.one_mul] at hnumber
      rw [jobs_mount, ← hnumber, List.getElem?_append_right (Nat.le_add_right _ _),
        Nat.add_sub_cancel_left, List.getElem?_map, ha]
      rfl
    rw [Scenario.fate?, hjob]
    rfl
  · intro i hi
    by_contra hnot
    simp only [mount, spawn, List.length_map, List.mem_range'_1, not_and_or, not_le,
      not_lt] at hnot
    rw [Scenario.fate?, jobs_mount] at hi
    rcases hnot with hlt | hle
    · rw [List.getElem?_append_left hlt] at hi
      exact hi (h i)
    · rw [List.getElem?_eq_none (by simpa using hle)] at hi
      exact hi rfl

namespace Tells

variable {es : List Event} {e : Event}

/-- The attempt that a job is was mounted, and it is under way in the history. -/
theorem of_attempting (h : Tells s es t) {i : Nat} {a : Attempt} {asked : Bool}
    (hi : t.jobs[i]? = some (.attempting a asked)) :
  (a, i) ∈ s.mounted ∧ fateAfter es i a = .running a
  := by
  have hfate : t.fate? i = some (.running a) := by
    rw [Scenario.fate?, hi]
    rfl
  obtain ⟨b, hb⟩ := exists_mem_mounted (h.mem i (by rw [hfate]; exact Option.some_ne_none _))
  have hrunning := h.fate? (b, i) hb
  rw [hfate, Option.some_inj] at hrunning
  obtain ⟨-, rfl⟩ := fateAfter_eq_running_iff.1 hrunning.symm
  exact ⟨hb, hrunning.symm⟩

/-- An event that concerns one attempt only, which is under way, decides on this one. -/
theorem fateAfter_concat (h : Tells s es t) {i : Nat} {a : Attempt} {asked : Bool}
    (hi : t.jobs[i]? = some (.attempting a asked)) (he : ∀ k, e.concerns k = decide (i = k))
    {x : Attempt × Nat} (hx : x ∈ s.mounted) :
  some (fateAfter (es ++ [e]) x.2 x.1) = if x.2 = i then some (e.fate a) else t.fate? x.2
  := by
  have hfate := h.fate? x hx
  split_ifs with hxi
  · rw [hxi, Scenario.fate?, hi] at hfate
    rw [fateAfter_concat_of_eq_running (b := a)]
    · rw [hxi]
      exact (Option.some_inj.1 hfate).symm
    · rw [he, hxi]
      exact decide_eq_true rfl
  · rw [hfate, fateAfter_concat_of_not_concerns]
    rw [he]
    exact decide_eq_false (Ne.symm hxi)

/-- A step does to the fate of an attempt what its event says. -/
theorem fate?_step (h : Tells s es t) (hstep : Step s.mount.2 t e u) {x : Attempt × Nat}
    (hx : x ∈ s.mounted) :
  u.fate? x.2 = some (fateAfter (es ++ [e]) x.2 x.1)
  := by
  have hfate := h.fate? x hx
  cases hstep with
  | ends hi r =>
    rw [fate?_endAttempt hi, h.fateAfter_concat hi (fun _ => rfl) hx]
    rfl
  | breaksOff hi =>
    rw [fate?_setJob hi, h.fateAfter_concat hi (fun _ => rfl) hx]
    rfl
  | abort =>
    obtain ⟨j, hj, hjob⟩ := Option.bind_eq_some_iff.1 hfate
    rw [Scenario.fate?, getElem?_abort, hj, Option.map_some, Option.bind_some,
      if_pos (mem_mount_of_mem_mounted hx)]
    -- An attempt is cancelled if it is under way. Otherwise its fate is decided already.
    by_cases hrunning : ∃ b, fateAfter es x.2 x.1 = .running b
    · obtain ⟨b, hb⟩ := hrunning
      rw [fateAfter_concat_of_eq_running hb rfl]
      rw [hb] at hjob
      cases j with
      | attempting => rfl
      | _ => cases hjob
    · push Not at hrunning
      rw [fateAfter_append_of_ne_running hrunning, ← hjob]
      cases j with
      | attempting a asked => exact (hrunning a (Option.some_inj.1 hjob).symm).elim
      | activating => cases hjob
      | _ => rfl
  | other hsame => rw [hsame.fate?, hfate, fateAfter_concat_of_not_concerns rfl]

theorem mem_step (h : Tells s es t) (hstep : Step s.mount.2 t e u) {i : Nat}
    (hi : u.fate? i ≠ none) :
  i ∈ s.mount.2
  := by
  by_contra hnot
  have hnone : t.fate? i = none := by
    by_contra hsome
    exact hnot (h.mem i hsome)
  have hne {k : Nat} {a : Attempt} {asked : Bool}
      (hk : t.jobs[k]? = some (.attempting a asked)) : i ≠ k := by
    rintro rfl
    exact hnot (mem_mount_of_mem_mounted (h.of_attempting hk).1)
  apply hi
  cases hstep with
  | ends hk r => rw [fate?_endAttempt hk, if_neg (hne hk), hnone]
  | breaksOff hk => rw [fate?_setJob hk, if_neg (hne hk), hnone]
  | abort =>
    rw [Scenario.fate?, getElem?_abort]
    simp only [if_neg hnot, Option.map_id']
    exact hnone
  | other hsame => rw [hsame.fate?, hnone]

/-- The end of an attempt is a result for its chain, and no other step changes what the connections
know of attempts. -/
theorem progress_step (h : Tells s es t) (hstep : Step s.mount.2 t e u) {kind : ChainKind}
    {chain : String}
    (hnone : ∀ x ∈ s.mounted, x.1.kind = kind → x.1.chain = chain →
      resultAfter? (es ++ [e]) x.2 = none) :
  u.progress kind chain = t.progress kind chain
  := by
  cases hstep with
  | @ends i a asked hi r =>
    obtain ⟨hmem, hrunning⟩ := h.of_attempting hi
    have hresult := resultAfter?_of_eq_running hrunning r []
    rw [progress_endAttempt]
    have hother : ¬ (kind = a.kind ∧ chain = a.chain) := by
      rintro ⟨rfl, rfl⟩
      rw [hnone (a, i) hmem rfl rfl] at hresult
      cases hresult
    simp only [if_neg hother, Option.map_id']
  | breaksOff hi => rfl
  | abort => rfl
  | other hsame => rw [hsame.progress]

theorem result?_step (h : Tells s es t) (hstep : Step s.mount.2 t e u) {i : Nat}
    {r : Except ConnectionError Client} (hi : .ends i r ∈ es ++ [e]) :
  resultAfter? (es ++ [e]) i = some r
  := by
  rcases List.mem_append.1 hi with hi | hi
  · exact resultAfter?_append (h.result? i r hi) [e]
  · obtain rfl := List.mem_singleton.1 hi
    cases hstep with
    | ends hk => exact resultAfter?_of_eq_running (h.of_attempting hk).2 r []

/-- A history that follows a mount goes on telling of the attempts. -/
theorem step (h : Tells s es t) (hstep : Step s.mount.2 t e u) :
  Tells s (es ++ [e]) u
  := by
  refine ⟨fun x hx => h.fate?_step hstep hx, fun i hi => h.mem_step hstep hi,
    fun i r hi => h.result?_step hstep hi, ?_⟩
  intro kind chain hnone
  rw [h.progress_step hstep hnone]
  apply h.progress
  intro x hx hkind hchain
  rw [Option.eq_none_iff_forall_ne_some]
  intro r hr
  have hresult := hnone x hx hkind hchain
  rw [resultAfter?_append hr] at hresult
  cases hresult

theorem leads {es' : List Event} (h : Tells s es t) (hleads : Leads s.mount.2 t es' u) :
  Tells s (es ++ es') u
  := by
  induction hleads generalizing es with
  | nil =>
    rw [List.append_nil]
    exact h
  | @cons t t' u e es' hstep _ ih =>
    rw [List.append_cons]
    apply ih (h.step hstep)

/-- Nothing in the history concerns an attempt that is under way. -/
theorem concerns_eq_false (h : Tells s es t) {i : Nat} {a : Attempt} {asked : Bool}
    (hi : t.jobs[i]? = some (.attempting a asked)) (he : e ∈ es) :
  e.concerns i = false
  := by
  obtain ⟨hnone, -⟩ := fateAfter_eq_running_iff.1 (h.of_attempting hi).2
  have hnot := List.find?_eq_none.1 hnone e he
  exact Bool.eq_false_iff.2 hnot

/-- After an abort no attempt ends. -/
theorem leads_of_abort (h : Tells s es t) (habort : Event.abort ∈ es) {es' : List Event}
    (hleads : Leads s.mount.2 t es' u) :
  (∀ i r, Event.ends i r ∉ es') ∧ u.progress = t.progress
  := by
  induction hleads generalizing es with
  | nil => exact ⟨fun _ _ => List.not_mem_nil, rfl⟩
  | @cons t t' u e es' hstep _ ih =>
    obtain ⟨hends, hprogress⟩ := ih (h.step hstep) (List.mem_append_left _ habort)
    rw [hprogress]
    cases hstep with
    | ends hi r => cases h.concerns_eq_false hi habort
    | breaksOff hi => cases h.concerns_eq_false hi habort
    | abort => exact ⟨by simpa using hends, rfl⟩
    | other hsame => exact ⟨by simpa using hends, hsame.progress⟩

end Tells

/-! ### What is seen of the attempts -/

/-- The attempts of a mount have all ended, broken off or been aborted in a history. -/
def IsOver (s : Scenario) (es : List Event) : Prop :=
  ∀ i ∈ s.mount.2, ∃ e ∈ es, e.concerns i

/-- The chains of the attempts of a mount that have ended in a history, with their statuses. -/
def reports (s : Scenario) (es : List Event) : List (String × ApiStatus) :=
  s.mounted.filterMap fun x => (resultAfter? es x.2).map fun r => (x.1.chain, .ofClient r.toOption)

section

variable {es es' : List Event}

theorem isOver_of_abort_mem (s : Scenario) (h : Event.abort ∈ es) :
  IsOver s es
  := fun _ _ => ⟨.abort, h, rfl⟩

theorem IsOver.append (h : IsOver s es) (es' : List Event) :
  IsOver s (es ++ es')
  := by
  intro i hi
  obtain ⟨e, he, hconcerns⟩ := h i hi
  exact ⟨e, List.mem_append_left es' he, hconcerns⟩

/-- When the attempts are over, an event has decided on each of them. -/
theorem IsOver.exists_find? (h : IsOver s es) {x : Attempt × Nat} (hx : x ∈ s.mounted) :
  ∃ e, es.find? (Event.concerns x.2) = some e
  := by
  rw [← Option.isSome_iff_exists, List.find?_isSome]
  exact h x.2 (mem_mount_of_mem_mounted hx)

/-- When the attempts are over, nothing more is reported. -/
theorem IsOver.reports_append (h : IsOver s es) (es' : List Event) :
  reports s (es ++ es') = reports s es
  := by
  apply List.filterMap_congr
  intro x hx
  obtain ⟨e, he⟩ := h.exists_find? hx
  rw [resultAfter?, resultAfter?, List.find?_append, he]
  rfl

/-- Without an abort and without attempts that break off, all attempts are reported. -/
theorem map_fst_reports (h : IsOver s es) (habort : Event.abort ∉ es)
    (hbreaksOff : ∀ i, Event.breaksOff i ∉ es) :
  (reports s es).map Prod.fst = s.mounted.map fun x => x.1.chain
  := by
  rw [reports, List.map_filterMap, ← List.filterMap_eq_map]
  apply List.filterMap_congr
  intro x hx
  obtain ⟨e, he⟩ := h.exists_find? hx
  have hmem := List.mem_of_find?_eq_some he
  have hconcerns := List.find?_some he
  rw [resultAfter?, he]
  cases e with
  | ends i r => rfl
  | breaksOff i => exact (hbreaksOff i hmem).elim
  | abort => exact (habort hmem).elim
  | other => cases hconcerns

end

namespace Tells

variable {es : List Event}

theorem statuses_eq (h : Tells s es t) :
  t.statuses s.mount.2 = reports s es
  := by
  rw [statuses, ← map_snd_mounted, List.filterMap_map, reports]
  apply List.filterMap_congr
  intro x hx
  have hstatus : t.jobs[x.2]?.bind Job.status? = (t.fate? x.2).bind Fate.status? := by
    rw [Scenario.fate?, Option.bind_assoc]
    congr 1
    funext j
    exact j.status?_eq
  rw [Function.comp_apply, hstatus, h.fate? x hx, resultAfter?, fateAfter]
  cases he : es.find? (Event.concerns x.2) with
  | none => rfl
  | some e => cases e <;> rfl

theorem areFinished_iff (h : Tells s es t) :
  t.areFinished s.mount.2 ↔ IsOver s es
  := by
  rw [areFinished, List.all_eq_true]
  refine forall₂_congr fun i hi => ?_
  obtain ⟨a, ha⟩ := exists_mem_mounted hi
  obtain ⟨j, hj, hjob⟩ := Option.bind_eq_some_iff.1 (h.fate? (a, i) ha)
  rw [hj, ← List.find?_isSome]
  rw [fateAfter] at hjob
  cases he : es.find? (Event.concerns i) with
  | none =>
    rw [he] at hjob
    cases j with
    | attempting => exact iff_of_false Bool.noConfusion Bool.noConfusion
    | _ => cases hjob
  | some e =>
    rw [he] at hjob
    cases j with
    | attempting b =>
      exact (e.fate_ne_running (List.find?_some he) b (Option.some_inj.1 hjob).symm).elim
    | activating => cases hjob
    | _ => exact iff_of_true rfl rfl

/-- What a wait returns are the attempts that have ended by then. -/
theorem join_eq_some (h : Tells s es t) {l : List (String × ApiStatus)}
    (hjoin : t.join s.mount.2 = (u, some l)) :
  ∃ es', Event.abort ∉ es' ∧ Leads s.mount.2 t es' u ∧ IsOver s (es ++ es')
    ∧ l = reports s (es ++ es')
  := by
  have hcontinues := continues_joinUntil (t.now + patience) s.mount.2 t.jumps t
  rw [join] at hjoin
  generalize joinUntil (t.now + patience) s.mount.2 t.jumps t = next at hjoin hcontinues
  obtain ⟨v, finished⟩ := next
  cases finished with
  | false => cases hjoin
  | true =>
    cases hjoin
    obtain ⟨⟨es', habort, hleads⟩, hfinished⟩ := hcontinues
    have hafter := h.leads hleads
    exact ⟨es', habort, hleads, hafter.areFinished_iff.1 (hfinished rfl), hafter.statuses_eq⟩

/-- A wait returns if the attempts are over. -/
theorem exists_join (h : Tells s es t) (hover : IsOver s es) :
  ∃ u, t.join s.mount.2 = (u, some (reports s es))
  := by
  -- At first all jobs in the queue go on. They cannot change what is reported any more.
  obtain ⟨es', -, hleads⟩ : Continues s.mount.2 t t.settle := t.continues_settle
  have hafter := h.leads hleads
  have hfinished := hafter.areFinished_iff.2 (hover.append es')
  have hjoin : joinUntil (t.now + patience) s.mount.2 t.jumps t = (t.settle, true) := by
    rw [jumps, joinUntil, if_pos hfinished]
  rw [join, hjoin, ← hover.reports_append es', ← hafter.statuses_eq]
  exact ⟨t.settle, rfl⟩

end Tells

/-! ### Waiting and aborting -/

/-- What holds of a mount after a history. -/
structure Joins (c : Config) (s : Scenario) (es : List Event) (t : Scenario) : Prop where
  /-- There is an attempt for each supported chain, parachains first. -/
  order : List.Forall₂ (fun x a => Attempt.IsFor c x.1 x.2 a) c.entries (s.mounted.map Prod.fst)
  numbers : s.mounted.map Prod.snd = s.mount.2
  nodup : s.mount.2.Nodup
  result?_eq_some_iff : ∀ i r, resultAfter? es i = some r ↔ Event.ends i r ∈ es
  /-- An attempt that ends has not been aborted. It writes its result at its chain. -/
  ends : ∀ i r u, Step s.mount.2 t (.ends i r) u → Event.abort ∉ es
    ∧ ∃ a, (a, i) ∈ s.mounted ∧ ∀ kind chain, u.progress kind chain = (t.progress kind chain).map
      fun x => if kind = a.kind ∧ chain = a.chain then (r.toOption, .ofClient r.toOption) else x
  /-- A wait that returns reports the attempts that have ended until then. -/
  join : ∀ u l, t.join s.mount.2 = (u, some l) → ∃ es', Event.abort ∉ es'
    ∧ Leads s.mount.2 t es' u ∧ IsOver s (es ++ es') ∧ l = reports s (es ++ es')
  /-- Without an abort and without attempts that break off, these are all of them. -/
  all : IsOver s es → Event.abort ∉ es → (∀ i, Event.breaksOff i ∉ es) →
    (reports s es).map Prod.fst = c.entries.map fun x => x.2.chain
  /-- After an abort no attempt ends, and a wait returns. -/
  abort : Event.abort ∈ es → ∀ es' u, Leads s.mount.2 t es' u → (∀ i r, Event.ends i r ∉ es')
    ∧ u.progress = t.progress ∧ ∃ v, u.join s.mount.2 = (v, some (reports s es))
  /-- A chain for which no attempt has ended is as it was in the beginning. -/
  untouched : ∀ x ∈ c.entries,
    (∀ y ∈ s.mounted, y.1.kind = x.1 → y.1.chain = x.2.chain → resultAfter? es y.2 = none) →
      t.progress x.1 x.2.chain = some (none, .initializing)

variable {c : Config} {p : Provider} {k : Connector} {e : ScriptedExtension} {es : List Event}

theorem resultAfter?_eq_some_iff (h : Tells s es t) (i : Nat) (r : Except ConnectionError Client) :
  resultAfter? es i = some r ↔ Event.ends i r ∈ es
  := by
  refine ⟨fun hr => ?_, h.result? i r⟩
  obtain ⟨e, he, hresult⟩ := Option.bind_eq_some_iff.1 hr
  cases e with
  | ends j q =>
    cases hresult
    obtain rfl : j = i := by simpa [Event.concerns] using List.find?_some he
    exact List.mem_of_find?_eq_some he
  | _ => cases hresult

/-- A provider with an accepted configuration mounts for the first time, whatever was done before.
In every history that follows, an attempt that ends writes its result at its chain unless it was
aborted; a wait that returns reports the attempts that have ended, in the order of the
configuration; after an abort no attempt ends, and a wait returns. A chain for which no attempt has
ended is as it was in the beginning. -/
theorem joins_mount (h : Provider.ofConfig c = .ok p) (hbefore : Continues [] (start p k e) s)
    (hafter : Leads s.mount.2 s.mount.1 es t) :
  Joins c s es t
  := by
  have hsame : SameAttempts (start p k e) s := hbefore.sameAttempts fun _ => rfl
  have htells : Tells s es t := (tells_mount fun i => congrFun hsame.fate? i).leads hafter
  have hcovered := Provider.isCovered_of_ofConfig h
  have hconfig : s.provider.config = c := hsame.config.trans (Provider.config_of_ofConfig h)
  have horder : List.Forall₂ (fun x a => Attempt.IsFor c x.1 x.2 a) c.entries
      (s.mounted.map Prod.fst) := by
    rw [map_fst_mounted, hconfig]
    exact Provider.forall₂_attempts hcovered
  refine ⟨horder, s.map_snd_mounted, List.nodup_range', resultAfter?_eq_some_iff htells,
    ?_, ?_, ?_, ?_, ?_⟩
  · intro i r u hstep
    cases hstep with
    | @ends _ a _ hi =>
      refine ⟨fun habort => ?_, a, (htells.of_attempting hi).1, t.progress_endAttempt i a r⟩
      cases htells.concerns_eq_false hi habort
  · intro u l hjoin
    exact htells.join_eq_some hjoin
  · -- Reports are in the order of the attempts, and these are in that of the supported chains.
    intro hover habort hbreaksOff
    rw [map_fst_reports hover habort hbreaksOff, ← List.forall₂_eq_eq_eq]
    rw [List.forall₂_map_right_iff] at horder
    rw [List.forall₂_map_left_iff, List.forall₂_map_right_iff]
    exact horder.flip.imp fun x y hfor => hfor.chain_eq
  · intro habort es' u hleads
    obtain ⟨hends, hprogress⟩ := htells.leads_of_abort habort hleads
    have hover := isOver_of_abort_mem s habort
    obtain ⟨v, hv⟩ := (htells.leads hleads).exists_join (hover.append es')
    rw [hover.reports_append es'] at hv
    exact ⟨hends, hprogress, v, hv⟩
  · intro x hx hnone
    have hnetwork := hcovered x.1 x.2 (Provider.mem_supported_of_mem_entries hx)
    obtain ⟨n, hn⟩ := Option.ne_none_iff_exists'.1 hnetwork
    rw [htells.progress x.1 x.2.chain hnone, hsame.progress]
    refine (congrArg (·.progress x.1 x.2.chain) (Provider.state_of_ofConfig h)).trans ?_
    rw [ProviderState.progress_initial, hn]
    rfl

end Scenario

namespace Samples

/-- The provider with a parachain and a relay chain of one identifier, without an extension. -/
def sharedScenario : Scenario :=
  .start sharedProvider ⟨.empty, .empty⟩ ⟨.none, [], 0, ⟨false, 0⟩, []⟩

/-- The attempt for the relay chain fails, and then that for the parachain is aborted. -/
def abortedMount : List Scenario.Event :=
  [.ends 1 (.error (.unreachable NetworkTable.kusama.wsUrl "refused")), .abort]

end Samples

namespace Scenario

open Samples

theorem joins_abortedMount :
  ∃ t, Leads sharedScenario.mount.2 sharedScenario.mount.1 abortedMount t
    ∧ Joins sharedConfig sharedScenario abortedMount t
    ∧ (∃ u, t.join sharedScenario.mount.2 = (u, some [("kusama", .failed)]))
    ∧ t.progress .parachain "kusama" = some (none, .initializing)
  := by
  have haccepted : Provider.ofConfig sharedConfig = .ok sharedProvider := rfl
  let r : Except ConnectionError Client := .error (.unreachable NetworkTable.kusama.wsUrl "refused")
  let ended := sharedScenario.mount.1.endAttempt 1
    ⟨.relaychain, "kusama", NetworkTable.kusama.wsUrl⟩ r
  have hleads : Leads sharedScenario.mount.2 sharedScenario.mount.1 abortedMount
      (ended.abort sharedScenario.mount.2) :=
    .cons (.ends rfl r) (.cons .abort (.nil _))
  have hjoins := joins_mount haccepted (.refl [] sharedScenario) hleads
  refine ⟨_, hleads, hjoins, ?_, rfl⟩
  obtain ⟨-, -, hjoin⟩ := hjoins.abort (by simp [abortedMount]) [] _ (.nil _)
  exact hjoin

end Scenario

end Extrinsics
