import Mathlib.Data.List.Forall2
import Extrinsics.Hash
import Extrinsics.Proofs.Text.Trim

/-!
# Canonical hashes

Trimming a text leaves no blank at its ends, and lowering letters leaves every blank a blank
and every other character none. So the canonical form of a hash is its own canonical form. Two
hashes share it exactly if they are equal up to the case of letters of ASCII, the blanks at
their ends aside.
-/

namespace Extrinsics.Hash

/-- Two characters are equal, or one is the upper-case form of the other, a letter of ASCII. -/
def Alike (c d : Char) : Prop :=
  c = d ∨ (c.isUpper ∧ d.toNat = c.toNat + 32) ∨ (d.isUpper ∧ c.toNat = d.toNat + 32)

theorem isUpper_iff (c : Char) :
  c.isUpper ↔ 65 ≤ c.toNat ∧ c.toNat ≤ 90
  := by
  change decide (c.val ≥ 65 ∧ c.val ≤ 90) ↔ _
  simp only [decide_eq_true_eq, ge_iff_le, UInt32.le_iff_toNat_le]
  rfl

/-- A character is an upper-case letter of ASCII, or lowering leaves it as it is. -/
theorem toLower_cases (c : Char) :
  (c.isUpper ∧ c.toLower.toNat = c.toNat + 32) ∨ (¬ c.isUpper ∧ c.toLower = c)
  := by
  by_cases hrange : c.val ≥ 65 ∧ c.val ≤ 90
  · left
    have hupper : c.isUpper := decide_eq_true hrange
    have hbounds := (isUpper_iff c).1 hupper
    have hlower : c.toLower.val = c.val + 32 := congrArg Char.val (dif_pos hrange)
    use hupper
    change c.toLower.val.toNat = _
    rw [hlower, UInt32.toNat_add, Nat.mod_eq_of_lt]
    · rfl
    · change c.toNat + 32 < _
      omega
  · right
    exact ⟨fun hupper => hrange (of_decide_eq_true hupper), dif_neg hrange⟩

theorem isBlank_toLower (c : Char) :
  Text.isBlank c.toLower = Text.isBlank c
  := by
  obtain ⟨hupper, h⟩ | ⟨-, h⟩ := toLower_cases c
  · have hbounds := (isUpper_iff c).1 hupper
    simp only [Text.isBlank, h]
    grind
  · rw [h]

theorem not_isUpper_toLower (c : Char) :
  ¬ c.toLower.isUpper
  := by
  obtain ⟨hupper, h⟩ | ⟨hother, h⟩ := toLower_cases c
  · have hbounds := (isUpper_iff c).1 hupper
    rw [isUpper_iff]
    omega
  · rwa [h]

/-- Lowering makes characters equal that differ in the case of a letter of ASCII, and no others. -/
theorem toLower_eq_toLower_iff (c d : Char) :
  c.toLower = d.toLower ↔ Alike c d
  := by
  rw [Alike]
  obtain ⟨hc, hc'⟩ | ⟨hc, hc'⟩ := toLower_cases c
  all_goals obtain ⟨hd, hd'⟩ | ⟨hd, hd'⟩ := toLower_cases d
  all_goals rw [← Char.toNat_inj, ← Char.toNat_inj]
  all_goals simp only [isUpper_iff] at hc hd ⊢
  · omega
  · rw [hc', hd']
    omega
  · rw [hc', hd']
    omega
  · rw [hc', hd']
    omega

/-- The canonical form of a hash is its own canonical form. -/
@[simp] theorem normalize_normalize (raw : String) :
  normalize (normalize raw) = normalize raw
  := by
  have hlower : Char.toLower ∘ Char.toLower = Char.toLower := by
    funext c
    obtain ⟨hupper, -⟩ | ⟨-, h⟩ := toLower_cases c.toLower
    · exact (not_isUpper_toLower c hupper).elim
    · exact h
  simp only [normalize, String.toList_ofList, Text.trim_map isBlank_toLower, Text.trim_trim,
    List.map_map, hlower]

/-- No blank is at an end of a canonical form. -/
theorem isTrimmed_normalize (raw : String) :
  Text.IsTrimmed (normalize raw).toList
  := by
  rw [normalize, String.toList_ofList, ← Text.trim_map isBlank_toLower]
  apply Text.isTrimmed_trim

theorem not_isUpper_of_mem_normalize (raw : String) :
  ∀ c ∈ (normalize raw).toList, ¬ c.isUpper
  := by
  intro c hc
  rw [normalize, String.toList_ofList] at hc
  obtain ⟨d, -, rfl⟩ := List.mem_map.1 hc
  apply not_isUpper_toLower

theorem normalize_eq_normalize_iff (a b : String) :
  normalize a = normalize b
    ↔ List.Forall₂ Alike (Text.trim a.toList) (Text.trim b.toList)
  := by
  have hrel : Alike = fun c d => c.toLower = d.toLower := by
    funext c d
    rw [toLower_eq_toLower_iff]
  rw [normalize, normalize, String.ofList_inj, ← List.forall₂_eq_eq_eq,
    List.forall₂_map_left_iff, List.forall₂_map_right_iff, hrel]

/-- The canonical form of a hash is its own canonical form. No blank is at its ends, and it has
no upper-case letters of ASCII. Two hashes have the same canonical form exactly if what trimming
leaves of them, the part between the blanks at the ends, has the same length and agrees character
by character, up to the case of letters of ASCII. -/
theorem canonical_form (a b : String) :
  normalize (normalize a) = normalize a
    ∧ Text.IsTrimmed (normalize a).toList
    ∧ (∀ c ∈ (normalize a).toList, ¬ c.isUpper)
    ∧ Text.IsCore (Text.trim a.toList) a.toList
    ∧ (normalize a = normalize b
      ↔ List.Forall₂ Alike (Text.trim a.toList) (Text.trim b.toList))
  := by
  refine ⟨normalize_normalize a, isTrimmed_normalize a, not_isUpper_of_mem_normalize a, ?_,
    normalize_eq_normalize_iff a b⟩
  rw [Text.isCore_iff]

/-- A letter outside of ASCII keeps its case. -/
example : normalize "\t0xABÉ " = "0xabÉ" := by decide

end Extrinsics.Hash
