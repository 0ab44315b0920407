import Mathlib.Data.List.Basic
import Mathlib.Data.List.Nodup
import Extrinsics.Dispatch.Registry

/-!
# Generic texts

A generic text belongs to one error only. The texts of errors with a reason and of errors of pallets
begin in ways of their own, the reason stands between fixed ends, and the index of a pallet ends
before a comma. The other errors are finitely many. So the text of an error that a registry cannot
resolve still tells which error it was.
-/

namespace Extrinsics

/-! ### Digits -/

theorem Hex.value?_digit {n : Nat} (h : n < 16) :
  value? (digit n) = some n
  := by
  revert n
  decide

/-- What is written is read back. -/
theorem Hex.decode?_encode (octets : List UInt8) :
  decode? (encode octets) = some octets
  := by
  induction octets with
  | nil => rfl
  | cons b octets ih =>
    have hb := b.toNat_lt
    have hpair : encode (b :: octets)
        = digit (b.toNat / 16) :: digit (b.toNat % 16) :: encode octets := rfl
    have hvalue : 16 * (b.toNat / 16) + b.toNat % 16 = b.toNat := Nat.div_add_mod b.toNat 16
    rw [hpair, decode?, value?_digit (by omega), value?_digit (by omega), ih]
    simp [hvalue]

theorem Hex.encode_injective : Function.Injective encode
  := by
  intro l l' h
  have hread := congrArg decode? h
  rw [decode?_encode, decode?_encode] at hread
  apply Option.some.inj hread

/-- A number that is written in front of a comma can be told from what follows. -/
theorem toDigits_append_comma_inj {m n : Nat} {l l' : List Char}
    (h : Nat.toDigits 10 m ++ ',' :: l = Nat.toDigits 10 n ++ ',' :: l') :
  m = n ∧ l = l'
  := by
  have htake (k : Nat) (r : List Char) :
      (Nat.toDigits 10 k ++ ',' :: r).takeWhile Char.isDigit = Nat.toDigits 10 k := by
    rw [List.takeWhile_append_of_pos fun c hc =>
      Nat.isDigit_of_mem_toDigits (by decide) (by decide) hc]
    apply List.append_nil
  have hdigits : Nat.toDigits 10 m = Nat.toDigits 10 n := by rw [← htake m l, h, htake]
  constructor
  · rw [← Nat.ofDigitChars_ten_toDigits (n := m), hdigits, Nat.ofDigitChars_ten_toDigits]
  · rw [hdigits] at h
    apply (List.cons.inj (List.append_cancel_left h)).2

/-! ### The forms of texts -/

/-- The index and the four octets are all there is to an error of a pallet. -/
theorem ModuleError.eq_of_octets {e e' : ModuleError} (hindex : e.index = e'.index)
    (hoctets : e.octets = e'.octets) :
  e = e'
  := by
  obtain ⟨index, error⟩ := e
  obtain ⟨index', error'⟩ := e'
  obtain rfl : index = index' := hindex
  simp only [octets, List.cons.injEq, and_true] at hoctets
  obtain ⟨h0, h1, h2, h3⟩ := hoctets
  congr 1
  apply Vector.ext
  intro i hi
  obtain rfl | rfl | rfl | rfl : i = 0 ∨ i = 1 ∨ i = 2 ∨ i = 3 := by omega
  · exact h0
  · exact h1
  · exact h2
  · exact h3

namespace DispatchError

/-- The errors that have neither a reason nor octets of a pallet. -/
def named : List DispatchError :=
  plain ++ TokenError.all.map token ++ ArithmeticError.all.map arithmetic

/-- An error is named, or it has a reason, or it comes from a pallet. -/
theorem mem_named_or (e : DispatchError) :
  e ∈ named ∨ (∃ reason, e = other reason) ∨ ∃ m, e = module m
  := by
  cases e with
  | other reason => exact .inr (.inl ⟨reason, rfl⟩)
  | module m => exact .inr (.inr ⟨m, rfl⟩)
  | token e => cases e <;> exact .inl (by decide)
  | arithmetic e => cases e <;> exact .inl (by decide)
  | _ => exact .inl (by decide)

/-- The characters of a text that ends with a quoted payload. -/
theorem toList_quoted (opening payload : String) :
  ("\x7b" ++ (opening ++ payload ++ "\"") ++ "\x7d").toList
    = '\x7b' :: (opening.toList ++ (payload.toList ++ ['"', '\x7d']))
  := by simp

theorem toList_text_other (reason : String) :
  (other reason).text.toList
    = '\x7b' :: ("\"other\":\"".toList ++ (reason.toList ++ ['"', '\x7d']))
  := toList_quoted _ reason

theorem toList_text_module (e : ModuleError) :
  (module e).text.toList = "\x7b\"module\":\x7b\"index\":".toList
    ++ (Nat.toDigits 10 e.index.toNat
      ++ ',' :: ("\"error\":\"0x".toList ++ (Hex.encode e.octets ++ "\"\x7d\x7d".toList)))
  := by
  have htext : (module e).text
      = "\x7b" ++ ("\"module\":" ++ ("\x7b" ++ ("\"index\":" ++ toString e.index.toNat
        ++ ",\"error\":\"0x" ++ Hex.text e.octets ++ "\"") ++ "\x7d")) ++ "\x7d" := rfl
  rw [htext, Hex.text]
  simp

/-- The texts of named errors differ, and none of them begins as that of an error with a reason or
of a pallet. -/
theorem text_named :
  (named.map text).Nodup
    ∧ ∀ e ∈ named, e.text.toList.take 3 ≠ ['\x7b', '"', 'o']
      ∧ e.text.toList.take 3 ≠ ['\x7b', '"', 'm']
  := by decide +kernel

/-! ### One error for each text -/

/-- An error with the text of a named error is that error. -/
theorem eq_of_text_named {a b : DispatchError} (ha : a ∈ named) (h : a.text = b.text) :
  a = b
  := by
  obtain ⟨hnodup, hopening⟩ := text_named
  obtain ⟨hother, hmodule⟩ := hopening a ha
  rcases mem_named_or b with hb | ⟨reason, rfl⟩ | ⟨m, rfl⟩
  · apply List.inj_on_of_nodup_map hnodup ha hb h
  · rw [h, toList_text_other] at hother
    exact (hother rfl).elim
  · rw [h, toList_text_module] at hmodule
    exact (hmodule rfl).elim

theorem text_other_ne_text_module (reason : String) (m : ModuleError) :
  (other reason).text ≠ (module m).text
  := by
  intro h
  have hopening := congrArg (fun s : String => s.toList.take 3) h
  simp only [toList_text_other, toList_text_module] at hopening
  have hletters : ['\x7b', '"', 'o'] = ['\x7b', '"', 'm'] := hopening
  revert hletters
  decide

theorem text_other_inj {r r' : String} (h : (other r).text = (other r').text) :
  r = r'
  := by
  have hlist := congrArg String.toList h
  rw [toList_text_other, toList_text_other] at hlist
  apply String.toList_inj.1
  apply List.append_cancel_right (List.append_cancel_left (List.cons.inj hlist).2)

theorem text_module_inj {m m' : ModuleError} (h : (module m).text = (module m').text) :
  m = m'
  := by
  have hlist := congrArg String.toList h
  rw [toList_text_module, toList_text_module] at hlist
  obtain ⟨hindex, hrest⟩ := toDigits_append_comma_inj (List.append_cancel_left hlist)
  apply ModuleError.eq_of_octets (UInt8.toNat_inj.1 hindex)
  apply Hex.encode_injective
  apply List.append_cancel_right (List.append_cancel_left hrest)

theorem text_injective : Function.Injective text
  := by
  intro a b h
  rcases mem_named_or a with ha | ⟨r, rfl⟩ | ⟨m, rfl⟩
  · apply eq_of_text_named ha h
  · rcases mem_named_or b with hb | ⟨r', rfl⟩ | ⟨m', rfl⟩
    · exact (eq_of_text_named hb h.symm).symm
    · rw [text_other_inj h]
    · exact (text_other_ne_text_module r m' h).elim
  · rcases mem_named_or b with hb | ⟨r', rfl⟩ | ⟨m', rfl⟩
    · exact (eq_of_text_named hb h.symm).symm
    · exact (text_other_ne_text_module r' m h.symm).elim
    · rw [text_module_inj h]

end DispatchError

/-! ### Errors that cannot be resolved -/

namespace Registry

/-- A registry resolves a dispatch error: it is a module error that the registry knows. -/
def Resolves (r : Registry) (e : DispatchError) : Prop :=
  ∃ m known, e = .module m ∧ r.find m = .ok known

/-- An error that cannot be resolved keeps its generic text. -/
theorem describe_of_not_resolves {r : Registry} {e : DispatchError} (h : ¬ r.Resolves e) :
  (r.describe e).1 = e.text
  := by
  rw [describe]
  cases e with
  | module m =>
    rw [DispatchError.module?]
    dsimp only
    cases hfind : r.find m with
    | ok known => exact (h ⟨m, known, rfl, hfind⟩).elim
    | error unknown => rfl
  | _ => rfl

end Registry

end Extrinsics
