import Mathlib.Data.List.Induction
import Extrinsics.Telemetry.Prometheus

/-!
# Writing series

A series is found by the digest of its labels, so a change of the number for some label values
changes what is found for every combination of that digest, and nothing else. A family that
began empty has one series for each digest at most. After some writes, the labels of a series
are those of the first write of its digest, and its number is that of the last one.

An event that tells the status of a chain is three such writes, one for each gauge.
-/

namespace Extrinsics

namespace Series

theorem answersTo_iff {s : Series} {labels : List String} :
  s.answersTo labels ↔ digest s.labels = digest labels
  := decide_eq_true_iff

theorem answersTo_congr (s : Series) {a b : List String} (h : digest a = digest b) :
  s.answersTo a = s.answersTo b
  := by rw [answersTo, answersTo, h]

end Series

namespace Family

variable (f : Family)

/-! ### Finding a series -/

/-- A series that is put among others is found there, unless one of them is. -/
theorem find?_insertSeries {p : Series → Bool} {s : Series} {l : List Series}
    (h : p s → l.find? p = none) :
  (insertSeries s l).find? p = if p s then some s else l.find? p
  := by
  induction l with
  | nil => cases hs : p s <;> simp [insertSeries, hs]
  | cons t l ih =>
    rw [insertSeries]
    split
    · cases hs : p s <;> simp [hs]
    · by_cases ht : p t
      · have hs : ¬ p s := by
          intro hs
          have hnone := h hs
          rw [List.find?_cons_of_pos ht] at hnone
          cases hnone
        rw [List.find?_cons_of_pos ht, List.find?_cons_of_pos ht, if_neg hs]
      · rw [List.find?_cons_of_neg ht] at h ⊢
        rw [List.find?_cons_of_neg ht, ih h]

theorem find?_congr {a b : List String} (h : Series.digest a = Series.digest b) :
  f.find? a = f.find? b
  := by
  rw [find?, find?]
  congr 1
  funext s
  apply s.answersTo_congr h

theorem digest_of_find? {f : Family} {labels : List String} {s : Series}
    (h : f.find? labels = some s) :
  Series.digest s.labels = Series.digest labels
  := by
  have hs := List.find?_some (p := fun s : Series => s.answersTo labels) (l := f.series) h
  apply Series.answersTo_iff.1 hs

/-- The series for some label values, which begins with zero. -/
def seriesFor (labels : List String) : Series := (f.find? labels).getD ⟨labels, 0⟩

/-- A change reaches every combination of label values of one digest. -/
theorem find?_update (labels labels' : List String) (change : Nat → Nat) :
  (f.update labels change).find? labels'
    = if Series.digest labels = Series.digest labels' then
        some { f.seriesFor labels with value := change (f.seriesFor labels).value }
      else f.find? labels'
  := by
  cases hfind : f.find? labels with
  | none =>
    rw [seriesFor, update, hfind, find?, find?_insertSeries]
    · apply if_congr Series.answersTo_iff rfl rfl
    · intro hs
      rw [← hfind]
      apply (f.find?_congr (Series.answersTo_iff.1 hs)).symm
  | some s =>
    let changed (t : Series) : Series :=
      if t.answersTo labels then { t with value := change t.value } else t
    have hchanged (t : Series) : (changed t).answersTo labels' = t.answersTo labels' := by
      dsimp only [changed]
      split_ifs <;> rfl
    have hmap : (f.update labels change).find? labels' = (f.find? labels').map changed := by
      rw [update, hfind, find?, find?, List.find?_map]
      simp only [Function.comp_def, hchanged, changed]
    rw [hmap, seriesFor, hfind, Option.getD_some]
    split_ifs with hdigest
    · rw [← f.find?_congr hdigest, hfind, Option.map_some]
      congr 1
      apply if_pos (Series.answersTo_iff.2 (digest_of_find? hfind))
    · cases hfind' : f.find? labels' with
      | none => rfl
      | some t =>
        rw [Option.map_some]
        congr 1
        apply if_neg
        intro ht
        apply hdigest ((Series.answersTo_iff.1 ht).symm.trans (digest_of_find? hfind'))

/-! ### One series for each digest -/

/-- No two series have one digest. -/
def IsKeyed : Prop :=
  f.series.Pairwise fun s t => Series.digest s.labels ≠ Series.digest t.labels

theorem perm_insertSeries (s : Series) (l : List Series) :
  (insertSeries s l).Perm (s :: l)
  := by
  induction l with
  | nil => exact .rfl
  | cons t l ih =>
    rw [insertSeries]
    split
    · exact .rfl
    · apply (ih.cons t).trans (List.Perm.swap s t l)

theorem isKeyed_empty : IsKeyed empty := .nil

variable {f}

theorem IsKeyed.update (h : f.IsKeyed) (labels : List String) (change : Nat → Nat) :
  (f.update labels change).IsKeyed
  := by
  rw [Family.update]
  cases hfind : f.find? labels with
  | none =>
    apply (perm_insertSeries _ _).symm.pairwise _ fun h => h.symm
    apply List.pairwise_cons.2 ⟨_, h⟩
    intro s hs hdigest
    apply List.find?_eq_none.1 hfind s hs
    apply Series.answersTo_iff.2 hdigest.symm
  | some s =>
    apply List.pairwise_map.2
    apply h.imp
    intro s t hne
    split_ifs <;> exact hne

/-- The numbers that a family shows for some label values. -/
def shown (f : Family) (labels : List String) : List Nat :=
  (f.series.filter fun s => s.labels = labels).map Series.value

/-- A family shows a number for some label values if it finds the number at these labels, and
not at others of their digest. -/
theorem shown_eq_singleton_iff (h : f.IsKeyed) {labels : List String} {n : Nat} :
  f.shown labels = [n] ↔ f.find? labels = some ⟨labels, n⟩
  := by
  obtain ⟨l⟩ := f
  rw [IsKeyed] at h
  rw [shown, find?]
  dsimp only
  induction l with
  | nil => simp
  | cons t l ih =>
    obtain ⟨ht, hl⟩ := List.pairwise_cons.1 h
    by_cases hdigest : Series.digest t.labels = Series.digest labels
    · -- The series `t` is found, and no other one has the labels.
      have hnil : l.filter (fun s => s.labels = labels) = [] := by
        apply List.filter_eq_nil_iff.2
        intro s hs hlabels
        apply ht s hs
        rw [hdigest, of_decide_eq_true hlabels]
      rw [List.find?_cons_of_pos (p := fun s : Series => s.answersTo labels)
        (Series.answersTo_iff.2 hdigest), List.filter_cons, hnil]
      obtain ⟨labels', n'⟩ := t
      by_cases hlabels : labels' = labels <;> simp [hlabels]
    · have hlabels : ¬ t.labels = labels := by
        rintro rfl
        apply hdigest rfl
      rw [List.find?_cons_of_neg (p := fun s : Series => s.answersTo labels)
        (mt Series.answersTo_iff.1 hdigest), List.filter_cons_of_neg (by simpa using hlabels),
        ih hl]

/-! ### Many writes -/

/-- The family after some writes. A write is given as a series: its labels, and its number. -/
def setAll (f : Family) (ws : List Series) : Family :=
  ws.foldl (fun f w => f.set w.labels w.value) f

theorem setAll_append (f : Family) (ws ws' : List Series) :
  f.setAll (ws ++ ws') = (f.setAll ws).setAll ws'
  := List.foldl_append

theorem setAll_concat (f : Family) (ws : List Series) (w : Series) :
  f.setAll (ws ++ [w]) = (f.setAll ws).set w.labels w.value
  := f.setAll_append ws [w]

theorem IsKeyed.setAll (h : f.IsKeyed) (ws : List Series) :
  (f.setAll ws).IsKeyed
  := by
  induction ws generalizing f with
  | nil => exact h
  | cons w ws ih => apply ih (h.update w.labels _)

/-- The writes that reach the series for some label values. -/
def reaching (labels : List String) (ws : List Series) : List Series :=
  ws.filter fun w => w.answersTo labels

theorem reaching_concat (labels : List String) (ws : List Series) (w : Series) :
  reaching labels (ws ++ [w])
    = if Series.digest w.labels = Series.digest labels then reaching labels ws ++ [w]
      else reaching labels ws
  := by
  split_ifs with h <;> simp [reaching, Series.answersTo, h]

theorem reaching_congr {a b : List String} (h : Series.digest a = Series.digest b)
    (ws : List Series) :
  reaching a ws = reaching b ws
  := by
  rw [reaching, reaching]
  congr 1
  funext w
  apply w.answersTo_congr h

/-- The labels of a series are those of the first write that reaches it, and its number is that
of the last one. -/
theorem find?_setAll_empty (ws : List Series) (labels : List String) :
  (empty.setAll ws).find? labels
    = (reaching labels ws).head?.bind fun first =>
      (reaching labels ws).getLast?.map fun last => ⟨first.labels, last.value⟩
  := by
  induction ws using List.reverseRecOn generalizing labels with
  | nil => rfl
  | append_singleton ws w ih =>
    rw [setAll_concat, set, find?_update, reaching_concat]
    split_ifs with hdigest
    · rw [seriesFor, ih, reaching_congr hdigest]
      cases h : reaching labels ws with
      | nil => rfl
      | cons first rest => simp [List.getLast?_cons]
    · apply ih

/-- After some writes, a number is shown for some label values if the first write that reaches
their series has these labels, and the last one has the number. -/
theorem shown_setAll_empty_iff (ws : List Series) (labels : List String) (n : Nat) :
  (empty.setAll ws).shown labels = [n]
    ↔ (reaching labels ws).head?.map Series.labels = some labels
      ∧ (reaching labels ws).getLast?.map Series.value = some n
  := by
  rw [shown_eq_singleton_iff (isKeyed_empty.setAll ws), find?_setAll_empty]
  cases h : reaching labels ws with
  | nil => simp
  | cons first rest => simp [List.getLast?_cons]

end Family

/-! ### The gauges of statuses -/

namespace Metric

variable {δ ε : Type}

/-- The event with another duration. -/
def map (f : δ → ε) : Metric δ → Metric ε
  | submitted kind => submitted kind
  | recordCreated => recordCreated
  | terminal status => terminal status
  | lifecycle duration => lifecycle (f duration)
  | apiStatus chain status => apiStatus chain status
  | activation outcome => activation outcome
  | error kind code => error kind code

/-- The chain and the status that an event tells, if it tells one. -/
def told? : Metric δ → Option (String × String)
  | apiStatus chain status => some (chain, status)
  | _ => none

theorem told?_map (f : δ → ε) (m : Metric δ) :
  (m.map f).told? = m.told?
  := by cases m <;> rfl

end Metric

namespace Prometheus

/-- The writes to the gauges of a chain when it gets a status. -/
def statusWrites (told : String × String) : List Series :=
  apiStatuses.map fun s => ⟨[told.1, s], if s = told.2 then 1 else 0⟩

theorem setStatus_eq_setAll (gauges : Family) (chain status : String) :
  setStatus gauges chain status = gauges.setAll (statusWrites (chain, status))
  := by rw [setStatus, Family.setAll, statusWrites, List.foldl_map]

/-- An event matters for the gauges of statuses only if it tells a status. -/
theorem Collectors.apiStatus_record (c : Collectors) (m : Metric Binary64) :
  (c.record m).apiStatus = c.apiStatus.setAll (m.told?.toList.flatMap statusWrites)
  := by
  cases m with
  | apiStatus chain status =>
    rw [Metric.told?, Option.toList_some, List.flatMap_singleton]
    apply setStatus_eq_setAll
  | _ => rfl

/-- The collectors after some events. -/
def Collectors.recordAll (c : Collectors) (ms : List (Metric Binary64)) : Collectors :=
  ms.foldl record c

/-- Every status that is told is written to the gauges. -/
theorem Collectors.apiStatus_recordAll (c : Collectors) (ms : List (Metric Binary64)) :
  (c.recordAll ms).apiStatus
    = c.apiStatus.setAll ((ms.filterMap Metric.told?).flatMap statusWrites)
  := by
  induction ms generalizing c with
  | nil => rfl
  | cons m ms ih =>
    have hcons : (m :: ms).filterMap Metric.told?
        = m.told?.toList ++ ms.filterMap Metric.told? := by
      rw [List.filterMap_cons]
      cases m.told? <;> rfl
    rw [hcons, List.flatMap_append, Family.setAll_append, ← apiStatus_record]
    apply ih (c.record m)

namespace Exporter

/-- The exporter after some events were reported to the process as a whole. -/
def recordAll (x : Exporter) (ms : List (Metric Binary64)) : Exporter := ms.foldl recordGlobal x

/-- The gauges of statuses that are exported. -/
def gauges (x : Exporter) : Family := x.collectors.elim .empty Collectors.apiStatus

/-- Once the collectors are installed for the process, they get every event. -/
theorem recordAll_installed (c : Collectors) (ms : List (Metric Binary64)) :
  recordAll ⟨some c, true⟩ ms = ⟨some (c.recordAll ms), true⟩
  := by
  induction ms generalizing c with
  | nil => rfl
  | cons m ms ih => apply ih (c.record m)

/-- Once the collectors are installed for the process, every status that is told is written to
the gauges. -/
theorem gauges_recordAll (c : Collectors) (ms : List (Metric Binary64)) :
  (recordAll ⟨some c, true⟩ ms).gauges
    = c.apiStatus.setAll ((ms.filterMap Metric.told?).flatMap statusWrites)
  := by
  rw [recordAll_installed]
  apply c.apiStatus_recordAll

end Exporter

end Prometheus

end Extrinsics
