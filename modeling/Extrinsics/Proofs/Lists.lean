import Mathlib.Algebra.GroupWithZero.Nat
import Mathlib.Data.List.Basic
import Mathlib.Data.List.Forall2

/-!
# Lists

What the rest of the development needs to know of lists, and the library does not say: nothing here
is about calls, chains or records. A list is read by its last element of a kind, changed in one
place, counted, and cut at the first element of a kind.
-/

namespace Extrinsics

/-! ### The last element of a kind

What a list of writes leaves at one place is its last write there: the last of those elements
that have a property. -/

section

variable {α : Type} (q : α → Prop) [DecidablePred q]

/-- One more element at the end is the last of a kind, if it is of that kind. -/
theorem getLast?_filter_concat (l : List α) (a : α) :
  ((l ++ [a]).filter q).getLast? = if q a then some a else (l.filter q).getLast?
  := by
  rw [List.filter_append, List.filter_cons, List.filter_nil]
  simp only [decide_eq_true_eq]
  split
  · apply List.getLast?_concat
  · rw [List.append_nil]

/-- There is a last element of a kind exactly if there is one at all. -/
theorem isSome_getLast?_filter (l : List α) :
  (l.filter q).getLast?.isSome ↔ ∃ a ∈ l, q a
  := by
  rw [List.getLast?_isSome, ne_eq, List.filter_eq_nil_iff]
  simp

theorem exists_getLast?_filter {l : List α} {a : α} (h : a ∈ l) (ha : q a) :
  ∃ b, (l.filter q).getLast? = some b
  := Option.isSome_iff_exists.1 ((isSome_getLast?_filter q l).2 ⟨a, h, ha⟩)

variable {q}

theorem mem_of_getLast?_filter {l : List α} {a : α} (h : (l.filter q).getLast? = some a) :
  a ∈ l ∧ q a
  := by
  have hmem := List.mem_filter.1 (List.mem_of_getLast? h)
  use hmem.1
  apply of_decide_eq_true hmem.2

end

variable {α β : Type}

/-! ### Changes in one place -/

theorem modify_of_getElem? {l : List α} {i : Nat} {a : α} (h : l[i]? = some a) (f : α → α) :
  l.modify i f = l.set i (f a)
  := by
  rw [List.modify_eq_set_getElem?, h]
  rfl

/-- A change of one element that keeps its image keeps all images. -/
theorem map_set_of_getElem? {g : α → β} {l : List α} {i : Nat} {a a' : α} (h : l[i]? = some a)
    (hg : g a' = g a) :
  (l.set i a').map g = l.map g
  := by
  obtain ⟨hi, rfl⟩ := List.getElem?_eq_some_iff.1 h
  rw [List.map_set, hg, ← List.map_set, List.set_getElem_self]

theorem map_modify {f : α → α} {g : α → β} (hf : ∀ a, g (f a) = g a) (l : List α) (i : Nat) :
  (l.modify i f).map g = l.map g
  := by
  cases h : l[i]? with
  | none => rw [List.modify_eq_self (List.getElem?_eq_none_iff.1 h)]
  | some a => rw [modify_of_getElem? h, map_set_of_getElem? h (hf a)]

/-! ### Counting -/

theorem countP_of_map_eq {p : α → Bool} {l l' : List α} (h : l.map p = l'.map p) :
  l.countP p = l'.countP p
  := by
  have hcount := congrArg (List.countP id) h
  rwa [List.countP_map, List.countP_map, Function.id_comp] at hcount

theorem countP_eq_sum (p : α → Bool) (l : List α) :
  l.countP p = (l.map fun a => (p a).toNat).sum
  := by
  induction l with
  | nil => rfl
  | cons a l ih =>
    rw [List.countP_cons, ih, List.map_cons, List.sum_cons, Nat.add_comm]
    cases p a <;> rfl

/-- How many elements have a property after one of them has changed. -/
theorem countP_set_add (p : α → Bool) {l : List α} {i : Nat} {a : α} (h : l[i]? = some a)
    (a' : α) :
  (l.set i a').countP p + (p a).toNat = l.countP p + (p a').toNat
  := by
  induction l generalizing i with
  | nil => cases h
  | cons b l ih =>
    cases i with
    | zero =>
      cases h
      rw [List.set_cons_zero, List.countP_cons, List.countP_cons]
      cases p a <;> cases p a' <;> simp
    | succ i =>
      rw [List.set_cons_succ, List.countP_cons, List.countP_cons]
      have := ih h
      omega

/-! ### Cuts and values -/

theorem eq_singleton_of_getElem? {l : List α} {a : α} (h : l[0]? = some a) (h' : l[1]? = none) :
  l = [a]
  := by
  match l with
  | [b] => rw [Option.some.inj h]

/-- A list begins with elements that do not have a property, up to one that does. -/
theorem takeWhile_of_isPrefix {p : α → Bool} {l m : List α} {a : α} (h : l ++ [a] <+: m)
    (hl : ∀ b ∈ l, p b = false) (ha : p a) :
  (m.takeWhile fun b => !p b) = l ∧ m.find? p = some a
  := by
  obtain ⟨rest, rfl⟩ := h
  rw [List.append_assoc, List.singleton_append]
  constructor
  · rw [List.takeWhile_append_of_pos (by simpa using hl),
      List.takeWhile_cons_of_neg (by simpa using ha), List.append_nil]
  · have hnone : l.find? p = none := by simpa using hl
    rw [List.find?_append, hnone, Option.none_or, List.find?_cons_of_pos ha]

/-- Where a function has a value for each element, none is left out. -/
theorem forall₂_filterMap {f : α → Option β} {l : List α} (h : ∀ x ∈ l, f x ≠ none) :
  List.Forall₂ (fun x y => f x = some y) l (l.filterMap f)
  := by
  induction l with
  | nil => exact .nil
  | cons x l ih =>
    obtain ⟨hx, hl⟩ := List.forall_mem_cons.1 h
    obtain ⟨y, hy⟩ := Option.ne_none_iff_exists'.1 hx
    rw [List.filterMap_cons_some hy]
    exact .cons hy (ih hl)

end Extrinsics
