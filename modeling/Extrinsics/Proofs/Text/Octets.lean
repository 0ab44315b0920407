import Mathlib.Data.List.Lex
import Mathlib.Data.String.Basic

/-!
# Octets of strings

Strings are ordered by their characters, and characters by their code points. That is the order of
the UTF-8 octets of strings: the octets of a greater character are greater, whatever follows.
-/

namespace Extrinsics.Text

/-- The UTF-8 octets of a string. -/
def octets (s : String) : List UInt8 := s.toUTF8.data.toList

theorem octets_ofList (l : List Char) :
  octets (String.ofList l) = l.flatMap String.utf8EncodeChar
  := by
  rw [octets, String.toUTF8_eq_toByteArray, String.toByteArray_ofList, List.utf8Encode]
  simp

/-! ### Characters -/

theorem ofNat_lt_ofNat_iff {x y : Nat} (hx : x < 256) (hy : y < 256) :
  UInt8.ofNat x < UInt8.ofNat y ↔ x < y
  := by
  rw [UInt8.lt_iff_toNat_lt, UInt8.toNat_ofNat_of_lt' hx, UInt8.toNat_ofNat_of_lt' hy]

theorem ofNat_eq_ofNat_iff {x y : Nat} (hx : x < 256) (hy : y < 256) :
  UInt8.ofNat x = UInt8.ofNat y ↔ x = y
  := by
  rw [← UInt8.toNat_inj, UInt8.toNat_ofNat_of_lt' hx, UInt8.toNat_ofNat_of_lt' hy]

/-- Code points end at the seventeenth plane. -/
theorem val_toNat_lt (c : Char) :
  c.val.toNat < 1114112
  := by
  rcases c.valid with h | ⟨-, h⟩
  · have hlt : c.val.toNat < 0xd800 := h
    omega
  · exact h

/-- Whatever follows, a greater character has greater octets. -/
theorem utf8EncodeChar_append_lt {c d : Char} (h : c < d) (l m : List UInt8) :
  String.utf8EncodeChar c ++ l < String.utf8EncodeChar d ++ m
  := by
  have hval : c.val.toNat < d.val.toNat := h
  have hd := val_toNat_lt d
  -- The octets are digits to the base 64, taken one after the other.
  have hdigits (x : Nat) : x / 4096 = x / 64 / 64 := (Nat.div_div_eq_div_mul x 64 64).symm
  have hdigits' (x : Nat) : x / 262144 = x / 64 / 64 / 64 := by
    rw [Nat.div_div_eq_div_mul, Nat.div_div_eq_div_mul]
  generalize hx : c.val.toNat = x at hval
  generalize hy : d.val.toNat = y at hval hd
  simp only [String.utf8EncodeChar, hx, hy, hdigits, hdigits']
  -- Forms of different lengths differ in the first octet.
  split_ifs <;>
    simp (disch := omega) only [List.cons_append, List.cons_lt_cons_iff, ofNat_lt_ofNat_iff,
      ofNat_eq_ofNat_iff] <;>
    omega

/-! ### Strings -/

theorem flatMap_utf8EncodeChar_lt {l m : List Char} (h : l < m) :
  l.flatMap String.utf8EncodeChar < m.flatMap String.utf8EncodeChar
  := by
  induction l generalizing m with
  | nil =>
    cases m with
    | nil => exact (List.lt_irrefl _ h).elim
    | cons d m =>
      rw [List.flatMap_cons, List.flatMap_nil]
      cases hd : String.utf8EncodeChar d with
      | nil => exact (String.utf8EncodeChar_ne_nil hd).elim
      | cons octet rest => apply List.nil_lt_cons
  | cons c l ih =>
    cases m with
    | nil => exact (List.not_lt_nil _ h).elim
    | cons d m =>
      rw [List.flatMap_cons, List.flatMap_cons]
      rcases List.cons_lt_cons_iff.1 h with hlt | ⟨rfl, hlt⟩
      · apply utf8EncodeChar_append_lt hlt
      · apply List.append_left_lt (ih hlt)

/-- The order of strings is the order of their octets. -/
theorem octets_lt_iff (s t : String) :
  octets s < octets t ↔ s < t
  := by
  have hmono (s t : String) (h : s < t) : octets s < octets t := by
    rw [← String.ofList_toList (s := s), ← String.ofList_toList (s := t), octets_ofList,
      octets_ofList]
    apply flatMap_utf8EncodeChar_lt (String.lt_iff.1 h)
  constructor
  · intro h
    rcases lt_trichotomy s t with hlt | rfl | hlt
    · exact hlt
    · exact (List.lt_irrefl _ h).elim
    · exact (List.lt_asymm h (hmono t s hlt)).elim
  · apply hmono

theorem octets_le_iff (s t : String) :
  octets s ≤ octets t ↔ s ≤ t
  := by
  rw [← List.not_lt, octets_lt_iff, String.not_lt]

end Extrinsics.Text
