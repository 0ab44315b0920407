/-!
# Steps that may fail

A step after another one gives a value when both do.
-/

namespace Extrinsics

/-- A step that follows another gives a value when the first one does. -/
theorem bind_eq_ok_iff {ε α β : Type} {x : Except ε α} {f : α → Except ε β} {b : β} :
  (x >>= f) = .ok b ↔ ∃ a, x = .ok a ∧ f a = .ok b
  := by
  cases x with
  | error e =>
    change Except.error e = _ ↔ _
    simp
  | ok a =>
    change f a = _ ↔ _
    simp

/-- A value that is given after a check is given when the check succeeds. -/
theorem checked_eq_ok_iff {ε α β : Type} {x : Except ε α} {check : Except ε Unit} {g : α → β}
    {b : β} :
  (do let a ← x; check; return g a) = .ok b ↔ ∃ a, x = .ok a ∧ check = .ok () ∧ b = g a
  := by
  rw [bind_eq_ok_iff]
  apply exists_congr
  intro a
  apply and_congr_right
  intro _
  rw [bind_eq_ok_iff]
  constructor
  · rintro ⟨⟨⟩, hcheck, ⟨⟩⟩
    exact ⟨hcheck, rfl⟩
  · rintro ⟨hcheck, rfl⟩
    exact ⟨(), hcheck, rfl⟩

end Extrinsics
