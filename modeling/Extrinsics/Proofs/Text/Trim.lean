import Mathlib.Data.List.DropRight
import Extrinsics.Text.Blank

/-!
# Trimmed texts

Trimming a text takes away the blanks at its two ends and nothing else. What is left begins and
ends with no blank, and no other part of the text can be left in this way.
-/

namespace Extrinsics.Text

/-- No blank is at either end of a text. -/
structure IsTrimmed (s : List Char) : Prop where
  head : ∀ c ∈ s.head?, ¬ isBlank c
  last : ∀ c ∈ s.getLast?, ¬ isBlank c

/-- A text is the part of another one between the blanks at its ends. -/
structure IsCore (core s : List Char) : Prop where
  around : ∃ l r, s = l ++ core ++ r ∧ (∀ c ∈ l, isBlank c) ∧ ∀ c ∈ r, isBlank c
  trimmed : IsTrimmed core

theorem trimRight_eq_rdropWhile (s : List Char) :
  trimRight s = s.rdropWhile isBlank
  := by
  induction s with
  | nil => rfl
  | cons c rest ih =>
    rw [trimRight, ih, List.rdropWhile, List.rdropWhile, List.reverse_cons,
      List.dropWhile_append]
    cases h : rest.reverse.dropWhile isBlank with
    | nil => cases hc : isBlank c <;> simp [hc]
    | cons d l =>
      obtain ⟨e, l', hl⟩ := List.exists_cons_of_ne_nil
        (List.reverse_ne_nil_iff.2 (List.cons_ne_nil d l))
      simp only [List.isEmpty_cons, Bool.false_eq_true, if_false, List.reverse_append,
        List.reverse_singleton, List.singleton_append, hl]

theorem trim_eq (s : List Char) :
  trim s = (s.dropWhile isBlank).rdropWhile isBlank
  := by rw [trim, trimRight_eq_rdropWhile]

/-- Dropping blanks at the end of a text that begins with no blank leaves it without one at
the beginning. -/
theorem dropWhile_rdropWhile {s : List Char} (h : s.dropWhile isBlank = s) :
  (s.rdropWhile isBlank).dropWhile isBlank = s.rdropWhile isBlank
  := by
  apply List.dropWhile_eq_self_iff.2
  intro hl
  obtain ⟨rest, hrest⟩ := List.rdropWhile_prefix isBlank s
  have hhead := List.dropWhile_eq_self_iff.1 h
    (Nat.lt_of_lt_of_le hl (List.rdropWhile_prefix isBlank s).length_le)
  rw [List.getElem_of_eq hrest.symm, List.getElem_append_left hl] at hhead
  apply hhead

/-- No blank is at either end exactly if there is nothing to drop. -/
theorem isTrimmed_iff (s : List Char) :
  IsTrimmed s ↔ s.dropWhile isBlank = s ∧ s.rdropWhile isBlank = s
  := by
  have hhead : s.dropWhile isBlank = s ↔ ∀ c ∈ s.head?, ¬ isBlank c := by
    rw [List.dropWhile_eq_self_iff]
    cases s <;> simp
  have hlast : s.rdropWhile isBlank = s ↔ ∀ c ∈ s.getLast?, ¬ isBlank c := by
    rw [List.rdropWhile_eq_self_iff]
    induction s using List.reverseRecOn <;> simp
  rw [hhead, hlast]
  constructor
  · intro h
    use h.head, h.last
  · intro h
    use h.1, h.2

theorem isTrimmed_trim (s : List Char) :
  IsTrimmed (trim s)
  := by
  rw [isTrimmed_iff, trim_eq]
  use dropWhile_rdropWhile (List.dropWhile_idempotent isBlank s)
  apply List.rdropWhile_idempotent

/-- A trimmed text stays as it is. -/
theorem trim_of_isTrimmed {s : List Char} (h : IsTrimmed s) :
  trim s = s
  := by
  obtain ⟨hhead, hlast⟩ := (isTrimmed_iff s).1 h
  rw [trim_eq, hhead, hlast]

theorem trim_trim (s : List Char) :
  trim (trim s) = trim s
  := trim_of_isTrimmed (isTrimmed_trim s)

/-- Blanks around a trimmed text are all that trimming takes away. -/
theorem trim_append {l core r : List Char} (hl : ∀ c ∈ l, isBlank c) (hr : ∀ c ∈ r, isBlank c)
    (h : IsTrimmed core) :
  trim (l ++ core ++ r) = core
  := by
  obtain ⟨hhead, hlast⟩ := (isTrimmed_iff core).1 h
  have hr' : r.reverse.dropWhile isBlank = [] := by
    rw [List.dropWhile_eq_nil_iff]
    simpa using hr
  rw [trim_eq, List.append_assoc, List.dropWhile_append_of_pos hl, List.dropWhile_append, hhead]
  cases core with
  | nil =>
    rw [List.dropWhile_eq_nil_iff.2 hr]
    rfl
  | cons c core =>
    rw [if_neg (by simp), List.rdropWhile, List.reverse_append, List.dropWhile_append, hr']
    apply hlast

/-- Trimming leaves the part between the blanks at the ends, and there is only one. -/
theorem isCore_iff (core s : List Char) :
  IsCore core s ↔ trim s = core
  := by
  constructor
  · rintro ⟨⟨l, r, rfl, hl, hr⟩, h⟩
    apply trim_append hl hr h
  · rintro rfl
    constructor
    · use s.takeWhile isBlank, (s.dropWhile isBlank).rtakeWhile isBlank
      refine ⟨?_, fun c hc => List.mem_takeWhile_imp hc, fun c hc => List.mem_rtakeWhile_imp hc⟩
      rw [trim_eq, List.append_assoc, List.rdropWhile_append_rtakeWhile,
        List.takeWhile_append_dropWhile]
    · apply isTrimmed_trim

/-- Replacing characters so that blanks, and only blanks, become blanks goes along with
trimming. -/
theorem trim_map {f : Char → Char} (hf : ∀ c, isBlank (f c) = isBlank c) (s : List Char) :
  trim (s.map f) = (trim s).map f
  := by
  have hcomp : isBlank ∘ f = isBlank := by
    funext c
    apply hf
  simp only [trim, trimRight_eq_rdropWhile, List.rdropWhile, List.dropWhile_map, hcomp,
    ← List.map_reverse]

end Extrinsics.Text
