import Mathlib.Data.List.Nodup
import Extrinsics.Proofs.Lists
import Extrinsics.Proofs.Telemetry.Series

/-!
# Counting events

Collectors hold the events since their installation. Events before it are lost, and a further
attempt to install them changes nothing. A family of counters has one series for each digest: it
counts all events of that digest, under the labels of the first one. So the counters are exact if
the digest tells the labels that have occurred apart, and only then; likewise the gauges of
statuses.
-/

namespace Extrinsics

/-- The digest tells some combinations of label values apart. -/
def Series.Apart (ls : List (List String)) : Prop :=
  ∀ a ∈ ls, ∀ b ∈ ls, digest a = digest b → a = b

instance (ls : List (List String)) : Decidable (Series.Apart ls) :=
  inferInstanceAs (Decidable (∀ a ∈ ls, ∀ b ∈ ls, _ → _))

namespace Family

variable {f : Family}

/-! ### What is shown -/

theorem find?_of_mem (h : f.IsKeyed) {s : Series} (hs : s ∈ f.series) :
  f.find? s.labels = some s
  := by
  obtain ⟨l⟩ := f
  rw [IsKeyed] at h
  rw [find?]
  dsimp only at h hs ⊢
  induction l with
  | nil => cases hs
  | cons t l ih =>
    obtain ⟨ht, hl⟩ := List.pairwise_cons.1 h
    rcases List.mem_cons.1 hs with rfl | hs
    · apply List.find?_cons_of_pos
      apply Series.answersTo_iff.2 rfl
    · rw [List.find?_cons_of_neg, ih hl hs]
      intro hanswers
      apply ht s hs (Series.answersTo_iff.1 hanswers)

theorem shown_eq_nil_iff {labels : List String} :
  f.shown labels = [] ↔ ∀ s ∈ f.series, s.labels ≠ labels
  := by
  rw [shown, List.map_eq_nil_iff, List.filter_eq_nil_iff]
  simp

/-- A family shows the number of the series that is found for some label values, if this series has
these labels. -/
theorem shown_eq_of_find? (h : f.IsKeyed) {labels : List String} {s : Series}
    (hfind : f.find? labels = some s) :
  f.shown labels = if s.labels = labels then [s.value] else []
  := by
  split_ifs with hlabels
  · rw [shown_eq_singleton_iff h, hfind, ← hlabels]
  · rw [shown_eq_nil_iff]
    rintro t ht rfl
    rw [find?_of_mem h ht] at hfind
    cases hfind
    exact hlabels rfl

/-- Combinations of label values for which a family shows numbers are told apart. -/
theorem apart_of_shown (h : f.IsKeyed) {ls : List (List String)}
    (hls : ∀ labels ∈ ls, f.shown labels ≠ []) :
  Series.Apart ls
  := by
  have hfind (labels : List String) (hl : labels ∈ ls) :
      ∃ s, s.labels = labels ∧ f.find? labels = some s := by
    have hshown := hls labels hl
    rw [ne_eq, shown_eq_nil_iff] at hshown
    push Not at hshown
    obtain ⟨s, hs, rfl⟩ := hshown
    use s, rfl, find?_of_mem h hs
  intro a ha b hb hdigest
  obtain ⟨s, rfl, hs⟩ := hfind a ha
  obtain ⟨t, rfl, ht⟩ := hfind b hb
  rw [f.find?_congr hdigest, ht] at hs
  cases hs
  rfl

/-! ### Counters -/

/-- The family after some events, given by their label values, were counted. -/
def incrementAll (f : Family) (ls : List (List String)) : Family := ls.foldl increment f

theorem incrementAll_append (f : Family) (ls ls' : List (List String)) :
  f.incrementAll (ls ++ ls') = (f.incrementAll ls).incrementAll ls'
  := List.foldl_append

theorem IsKeyed.incrementAll (h : f.IsKeyed) (ls : List (List String)) :
  (f.incrementAll ls).IsKeyed
  := by
  induction ls generalizing f with
  | nil => exact h
  | cons l ls ih => apply ih (h.update l _)

/-- Those of some combinations of label values that have the digest of the given one. -/
def alike (labels : List String) (ls : List (List String)) : List (List String) :=
  ls.filter fun l => Series.digest l = Series.digest labels

theorem alike_congr {a b : List String} (h : Series.digest a = Series.digest b)
    (ls : List (List String)) :
  alike a ls = alike b ls
  := by rw [alike, h, alike]

theorem alike_concat (labels : List String) (ls : List (List String)) (l : List String) :
  alike labels (ls ++ [l])
    = if Series.digest l = Series.digest labels then alike labels ls ++ [l] else alike labels ls
  := by
  split_ifs with h <;> simp [alike, h]

/-- A series counts all events of its digest, and its labels are those of the first one. -/
theorem find?_incrementAll_empty (ls : List (List String)) (labels : List String) :
  (empty.incrementAll ls).find? labels
    = (alike labels ls).head?.map fun first => ⟨first, (alike labels ls).length⟩
  := by
  induction ls using List.reverseRecOn generalizing labels with
  | nil => rfl
  | append_singleton ls l ih =>
    rw [incrementAll_append, incrementAll, List.foldl_cons, List.foldl_nil, increment, find?_update,
      alike_concat]
    split_ifs with hdigest
    · rw [seriesFor, ih, alike_congr hdigest]
      cases alike labels ls with
      | nil => rfl
      | cons first rest => simp
    · apply ih

theorem labels_mem_of_mem_incrementAll {ls : List (List String)} {s : Series}
    (hs : s ∈ (empty.incrementAll ls).series) :
  s.labels ∈ ls
  := by
  have hfind := find?_of_mem (isKeyed_empty.incrementAll ls) hs
  rw [find?_incrementAll_empty, Option.map_eq_some_iff] at hfind
  obtain ⟨first, hfirst, hs⟩ := hfind
  rw [← hs]
  exact (List.mem_filter.1 (List.mem_of_mem_head? hfirst)).1

theorem alike_of_apart {ls : List (List String)} (h : Series.Apart ls) {labels : List String}
    (hl : labels ∈ ls) :
  alike labels ls = List.replicate (ls.count labels) labels
  := by
  rw [← List.filter_eq, alike]
  apply List.filter_congr
  intro l hmem
  apply decide_eq_decide.2
  constructor
  · apply h l hmem labels hl
  · apply congrArg Series.digest

/-- What a family of counters shows is exact if the digest tells the labels that have occurred
apart, and only then. -/
theorem shown_incrementAll_iff_apart (ls : List (List String)) :
  (∀ labels, (empty.incrementAll ls).shown labels
      = if labels ∈ ls then [ls.count labels] else [])
    ↔ Series.Apart ls
  := by
  have hkeyed := isKeyed_empty.incrementAll ls
  constructor
  · intro h
    apply apart_of_shown hkeyed
    intro labels hl
    rw [h, if_pos hl]
    apply List.cons_ne_nil
  · intro hapart labels
    split_ifs with hl
    · have hfind := find?_incrementAll_empty ls labels
      obtain ⟨n, hn⟩ := Nat.exists_eq_add_one.2 (List.count_pos_iff.2 hl)
      rw [alike_of_apart hapart hl, hn, List.replicate_succ, List.head?_cons, Option.map_some,
        List.length_cons, List.length_replicate] at hfind
      rw [hn, shown_eq_of_find? hkeyed hfind, if_pos rfl]
    · rw [shown_eq_nil_iff]
      rintro s hs rfl
      exact hl (labels_mem_of_mem_incrementAll hs)

/-! ### Gauges -/

theorem labels_mem_of_mem_setAll {ws : List Series} {s : Series}
    (hs : s ∈ (empty.setAll ws).series) :
  s.labels ∈ ws.map Series.labels
  := by
  have hfind := find?_of_mem (isKeyed_empty.setAll ws) hs
  rw [find?_setAll_empty, Option.bind_eq_some_iff] at hfind
  obtain ⟨first, hfirst, hlast⟩ := hfind
  obtain ⟨last, -, hs⟩ := Option.map_eq_some_iff.1 hlast
  have hmem : first ∈ ws := (List.mem_filter.1 (List.mem_of_mem_head? hfirst)).1
  rw [← hs]
  apply List.mem_map_of_mem hmem

theorem reaching_of_apart {ws : List Series} (h : Series.Apart (ws.map Series.labels))
    {labels : List String} (hl : labels ∈ ws.map Series.labels) :
  reaching labels ws = ws.filter fun w => w.labels = labels
  := by
  apply List.filter_congr
  intro w hw
  apply decide_eq_decide.2
  constructor
  · apply h _ (List.mem_map_of_mem hw) _ hl
  · apply congrArg Series.digest

/-- If the digest tells the labels that have been written to apart, a family of gauges shows for
each the number of the last write. -/
theorem shown_setAll_of_apart {ws : List Series} (h : Series.Apart (ws.map Series.labels))
    (labels : List String) :
  (empty.setAll ws).shown labels
    = ((ws.filter fun w => w.labels = labels).getLast?.map Series.value).toList
  := by
  by_cases hl : labels ∈ ws.map Series.labels
  · obtain ⟨w, hw, rfl⟩ := List.mem_map.1 hl
    obtain ⟨last, hlast⟩ := exists_getLast?_filter (fun w' : Series => w'.labels = w.labels) hw rfl
    have hne := List.ne_nil_of_mem (List.mem_of_getLast? hlast)
    rw [hlast]
    apply (shown_setAll_empty_iff ws w.labels last.value).2
    rw [reaching_of_apart h hl, hlast, List.head?_eq_some_head hne, Option.map_some]
    refine ⟨?_, rfl⟩
    congr 1
    exact of_decide_eq_true (List.mem_filter.1 (List.head_mem hne)).2
  · have hnone : (ws.filter fun w => w.labels = labels) = [] := by
      rw [List.filter_eq_nil_iff]
      intro w hw hlabels
      apply hl
      rw [← of_decide_eq_true hlabels]
      apply List.mem_map_of_mem hw
    rw [hnone]
    apply shown_eq_nil_iff.2
    rintro s hs rfl
    exact hl (labels_mem_of_mem_setAll hs)

end Family

/-! ### Events -/

/-- The labelled counters. -/
inductive Counter where
  | submitted
  | terminal
  | activations
  | errors
deriving DecidableEq

namespace Metric

variable {δ : Type}

/-- The label values under which a counter counts an event, if it counts it. -/
def labels? : Counter → Metric δ → Option (List String)
  | .submitted, submitted kind => some [kind]
  | .terminal, terminal status => some [status]
  | .activations, activation outcome => some [outcome]
  | .errors, error kind code => some [kind, code]
  | _, _ => none

/-- Whether an event is the creation of a record. -/
def isCreation : Metric δ → Bool
  | recordCreated => true
  | _ => false

/-- Whether an event is a duration. -/
def isDuration : Metric δ → Bool
  | lifecycle _ => true
  | _ => false

/-- The label values of the events that a counter counts, in order. -/
def counted (k : Counter) (ms : List (Metric δ)) : List (List String) := ms.filterMap (labels? k)

/-- The statuses of chains that are told, in order. -/
def told (ms : List (Metric δ)) : List (String × String) := ms.filterMap told?

/-- The status that is told last for a chain. -/
def lastTold? (chain : String) (ms : List (Metric δ)) : Option String :=
  ((told ms).filter fun t => t.1 = chain).getLast?.map Prod.snd

end Metric

namespace Prometheus

namespace Collectors

/-- The family of a labelled counter. -/
def family (c : Collectors) : Counter → Family
  | .submitted => c.submitted
  | .terminal => c.terminal
  | .activations => c.activations
  | .errors => c.errors

variable (c : Collectors) (ms : List (Metric Binary64))

theorem recordAll_concat (m : Metric Binary64) :
  c.recordAll (ms ++ [m]) = (c.recordAll ms).record m
  := List.foldl_append

/-- An event is counted by a counter that has labels for it, and by no other. -/
theorem family_record (m : Metric Binary64) (k : Counter) :
  (c.record m).family k = (c.family k).incrementAll (m.labels? k).toList
  := by cases m <;> cases k <;> rfl

theorem family_recordAll (k : Counter) :
  (c.recordAll ms).family k = (c.family k).incrementAll (Metric.counted k ms)
  := by
  induction ms using List.reverseRecOn with
  | nil => rfl
  | append_singleton ms m ih =>
    rw [recordAll_concat, family_record, ih, ← Family.incrementAll_append, Metric.counted,
      Metric.counted, List.filterMap_append, List.filterMap_cons]
    cases m.labels? k <;> rfl

theorem recordsCreated_recordAll :
  (c.recordAll ms).recordsCreated = c.recordsCreated + ms.countP Metric.isCreation
  := by
  induction ms using List.reverseRecOn with
  | nil => rfl
  | append_singleton ms m ih =>
    rw [recordAll_concat, List.countP_append, ← Nat.add_assoc, ← ih]
    cases m <;> rfl

theorem durations_recordAll :
  (c.recordAll ms).lifecycle.count = c.lifecycle.count + ms.countP Metric.isDuration
  := by
  induction ms using List.reverseRecOn with
  | nil => rfl
  | append_singleton ms m ih =>
    rw [recordAll_concat, List.countP_append, ← Nat.add_assoc, ← ih]
    cases m <;> rfl

/-- A counter shows, for all label values that have occurred and for no others, how often they have
occurred. -/
def CountsExactly (k : Counter) : Prop :=
  ∀ labels, (c.family k).shown labels
    = if labels ∈ Metric.counted k ms then [(Metric.counted k ms).count labels] else []

/-- The gauges show exactly three series for each chain whose status was told, of which the one for
the last status of the chain is one and the others are zero. -/
def ShowsStatuses : Prop :=
  ∀ chain s, c.apiStatus.shown [chain, s]
    = if s ∈ apiStatuses then
        ((Metric.lastTold? chain ms).map fun status => if s = status then 1 else 0).toList
      else []

theorem countsExactly_iff (k : Counter) :
  (empty.recordAll ms).CountsExactly ms k ↔ Series.Apart (Metric.counted k ms)
  := by
  rw [← Family.shown_incrementAll_iff_apart, CountsExactly, family_recordAll]
  cases k <;> rfl

/-! ### Statuses -/

theorem filter_statusWrites (t : String × String) (chain s : String) :
  (statusWrites t).filter (fun w => w.labels = [chain, s])
    = if t.1 = chain ∧ s ∈ apiStatuses then [⟨[chain, s], if s = t.2 then 1 else 0⟩] else []
  := by
  have hlabels (x : String) : [t.1, x] = [chain, s] ↔ t.1 = chain ∧ x = s := by simp
  rw [statusWrites, List.filter_map]
  simp only [Function.comp_def, hlabels]
  by_cases hchain : t.1 = chain
  · have hnodup : apiStatuses.Nodup := by decide
    simp only [hchain, true_and]
    rw [List.filter_eq]
    by_cases hs : s ∈ apiStatuses
    · rw [List.count_eq_one_of_mem hnodup hs, if_pos hs]
      rfl
    · rw [List.count_eq_zero_of_not_mem hs, if_neg hs]
      rfl
  · simp [hchain]

theorem filter_flatMap_statusWrites (ts : List (String × String)) (chain s : String) :
  (ts.flatMap statusWrites).filter (fun w => w.labels = [chain, s])
    = if s ∈ apiStatuses then
        (ts.filter fun t => t.1 = chain).map fun t => ⟨[chain, s], if s = t.2 then 1 else 0⟩
      else []
  := by
  induction ts with
  | nil => simp
  | cons t ts ih =>
    rw [List.flatMap_cons, List.filter_append, ih, filter_statusWrites]
    by_cases hs : s ∈ apiStatuses <;> by_cases ht : t.1 = chain <;> simp [hs, ht]

/-- The label values of the gauges that the told statuses are written to. -/
def statusLabels : List (List String) :=
  ((Metric.told ms).flatMap statusWrites).map Series.labels

theorem exists_of_mem_statusLabels {ms : List (Metric Binary64)} {labels : List String}
    (h : labels ∈ statusLabels ms) :
  ∃ chain s, labels = [chain, s] ∧ s ∈ apiStatuses
    ∧ ∃ status, Metric.lastTold? chain ms = some status
  := by
  obtain ⟨w, hw, rfl⟩ := List.mem_map.1 h
  obtain ⟨t, ht, hw⟩ := List.mem_flatMap.1 hw
  obtain ⟨s, hs, rfl⟩ := List.mem_map.1 hw
  obtain ⟨last, hlast⟩ :=
    exists_getLast?_filter (fun t' : String × String => t'.1 = t.1) ht rfl
  use t.1, s, rfl, hs, last.2
  rw [Metric.lastTold?, hlast]
  rfl

theorem showsStatuses_iff :
  (empty.recordAll ms).ShowsStatuses ms ↔ Series.Apart (statusLabels ms)
  := by
  have hgauges : (empty.recordAll ms).apiStatus
      = Family.empty.setAll ((Metric.told ms).flatMap statusWrites) := empty.apiStatus_recordAll ms
  rw [ShowsStatuses, hgauges]
  constructor
  · intro h
    apply Family.apart_of_shown (Family.isKeyed_empty.setAll _)
    intro labels hl
    obtain ⟨chain, s, rfl, hs, status, hlast⟩ := exists_of_mem_statusLabels hl
    rw [h, if_pos hs, hlast]
    apply List.cons_ne_nil
  · intro hapart chain s
    rw [Family.shown_setAll_of_apart hapart, filter_flatMap_statusWrites]
    split_ifs with hs
    · rw [List.getLast?_map, Metric.lastTold?, Option.map_map, Option.map_map]
      rfl
    · rfl

/-! ### What collectors hold -/

/-- Collectors hold some events: the records and durations by their number, and in each series of a
family all events of one digest under the labels of the first of them. -/
structure Holds : Prop where
  creations : c.recordsCreated = ms.countP Metric.isCreation
  durations : c.lifecycle.count = ms.countP Metric.isDuration
  counters : ∀ k labels, (c.family k).find? labels
    = (Family.alike labels (Metric.counted k ms)).head?.map fun first =>
      ⟨first, (Family.alike labels (Metric.counted k ms)).length⟩
  gauges : ∀ labels, c.apiStatus.find? labels
    = (Family.reaching labels ((Metric.told ms).flatMap statusWrites)).head?.bind fun first =>
      (Family.reaching labels ((Metric.told ms).flatMap statusWrites)).getLast?.map fun last =>
        ⟨first.labels, last.value⟩

theorem holds_recordAll :
  (empty.recordAll ms).Holds ms
  where
  creations := by rw [recordsCreated_recordAll, empty, Nat.zero_add]
  durations := by rw [durations_recordAll, empty, Histogram.empty, Nat.zero_add]
  counters := by
    intro k labels
    rw [← Family.find?_incrementAll_empty, family_recordAll]
    cases k <;> rfl
  gauges := by
    intro labels
    rw [apiStatus_recordAll]
    apply Family.find?_setAll_empty

end Collectors

/-! ### Installation -/

namespace Exporter

/-- An action on an exporter: an attempt to install the collectors, or an event that is reported to
them or to the process as a whole. -/
inductive Action where
  | install (isGlobal : Bool)
  | report (m : Metric Binary64)
  | reportGlobal (m : Metric Binary64)

/-- The event that reaches installed collectors. -/
def Action.event? (isGlobal : Bool) : Action → Option (Metric Binary64)
  | install _ => none
  | report m => some m
  | reportGlobal m => if isGlobal then some m else none

/-- Whether an action is no attempt to install collectors. -/
def Action.isReport : Action → Bool
  | install _ => false
  | _ => true

/-- The exporter after an action. -/
def perform (x : Exporter) : Action → Exporter
  | .install isGlobal => (x.install isGlobal).1
  | .report m => x.record m
  | .reportGlobal m => x.recordGlobal m

/-- The exporter after some actions. -/
def performAll (x : Exporter) (as : List Action) : Exporter := as.foldl perform x

/-- The exporter of a process after some actions. -/
def run (as : List Action) : Exporter := start.performAll as

theorem performAll_append (x : Exporter) (as as' : List Action) :
  x.performAll (as ++ as') = (x.performAll as).performAll as'
  := List.foldl_append

/-- Without collectors, an event leaves nothing behind. -/
theorem performAll_start {as : List Action} (h : ∀ a ∈ as, a.isReport) :
  start.performAll as = start
  := by
  induction as with
  | nil => rfl
  | cons a as ih =>
    obtain ⟨ha, has⟩ := List.forall_mem_cons.1 h
    cases a with
    | install isGlobal => cases ha
    | report m => apply ih has
    | reportGlobal m => apply ih has

/-- Installed collectors get every event that reaches them, and nothing else changes them. -/
theorem performAll_installed (c : Collectors) (isGlobal : Bool) (as : List Action) :
  performAll ⟨some c, isGlobal⟩ as
    = ⟨some (c.recordAll (as.filterMap (Action.event? isGlobal))), isGlobal⟩
  := by
  induction as generalizing c with
  | nil => rfl
  | cons a as ih =>
    cases a with
    | install again => apply ih
    | report m => apply ih (c.record m)
    | reportGlobal m =>
      cases isGlobal with
      | true => apply ih (c.record m)
      | false => apply ih

/-- The first attempt to install the collectors succeeds, and they hold the events since then. -/
theorem run_eq {before : List Action} (h : ∀ a ∈ before, a.isReport) (isGlobal : Bool)
    (after : List Action) :
  run (before ++ .install isGlobal :: after)
    = ⟨some (Collectors.empty.recordAll (after.filterMap (Action.event? isGlobal))), isGlobal⟩
  := by
  rw [run, performAll_append, performAll_start h]
  apply performAll_installed

/-- Events that are reported before the collectors are installed are lost, and once they are
installed a further attempt fails and changes nothing. The collectors hold the events since the
installation. A labelled counter is exact if the digest tells the labels that have occurred apart,
and only then. Likewise the gauges show the last status of every chain if the digest tells their
labels apart, and only then. -/
theorem counted_run {before : List Action} (hbefore : ∀ a ∈ before, a.isReport) (isGlobal : Bool)
    (after : List Action) :
  run before = start
    ∧ ∃ c, run (before ++ .install isGlobal :: after) = ⟨some c, isGlobal⟩
      ∧ (∀ again, (run (before ++ .install isGlobal :: after)).install again
        = (run (before ++ .install isGlobal :: after), .error duplicate))
      ∧ let ms := after.filterMap (Action.event? isGlobal)
        c.Holds ms
          ∧ (∀ k, c.CountsExactly ms k ↔ Series.Apart (Metric.counted k ms))
          ∧ (c.ShowsStatuses ms ↔ Series.Apart (Collectors.statusLabels ms))
  := by
  have hrun := run_eq hbefore isGlobal after
  refine ⟨performAll_start hbefore, _, hrun, ?_, ?_⟩
  · intro again
    rw [hrun]
    rfl
  · exact ⟨Collectors.holds_recordAll _, Collectors.countsExactly_iff _,
      Collectors.showsStatuses_iff _⟩

/-- Two errors whose labels run together count as one. -/
theorem not_countsExactly_joinedLabels :
  ∃ c, run [.install false, .report (.error "ab" "c"), .report (.error "a" "bc")] = ⟨some c, false⟩
    ∧ c.errors.shown ["ab", "c"] = [2] ∧ c.errors.shown ["a", "bc"] = []
  := by
  refine ⟨_, rfl, ?_⟩
  decide +kernel

end Exporter

end Prometheus

namespace Samples

open Prometheus

/-- A call is submitted before the collectors are installed, and one after it. Then there is a
second attempt to install them, and two chains change their statuses. -/
def exportedActions : List Exporter.Action :=
  [.report (.submitted "signed"), .install false, .report (.submitted "signed"), .install true,
    .report (.apiStatus "picasso" "connected"), .report (.apiStatus "kusama" "failed"),
    .report (.apiStatus "picasso" "failed"), .report (.lifecycle .zero)]

end Samples

namespace Prometheus.Exporter

open Samples

theorem counted_run_exportedActions :
  ∃ c, run exportedActions = ⟨some c, false⟩
    ∧ c.lifecycle.count = 1
    ∧ c.submitted.shown ["signed"] = [1]
    ∧ c.apiStatus.shown ["picasso", "failed"] = [1]
    ∧ c.apiStatus.shown ["picasso", "connected"] = [0]
  := by
  have hbefore : ∀ a ∈ [Action.report (.submitted "signed")], a.isReport := by decide
  obtain ⟨-, c, hrun, -, hholds, hcounters, hgauges⟩ := counted_run hbefore false
    (exportedActions.drop 2)
  have hsubmitted := (hcounters .submitted).2 (by decide +kernel) ["signed"]
  have hstatuses := hgauges.2 (by decide +kernel) "picasso"
  refine ⟨c, hrun, hholds.durations, hsubmitted, hstatuses "failed", hstatuses "connected"⟩

end Prometheus.Exporter

end Extrinsics
