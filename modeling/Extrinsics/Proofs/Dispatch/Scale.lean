import Mathlib.Algebra.Group.Nat.Defs
import Mathlib.Data.List.Basic
import Extrinsics.Dispatch.Scale
import Extrinsics.Proofs.Steps

/-!
# Canonical forms

A reader of a type of values reads a value from exactly those octets that begin with the form
of the value. This is shown of numbers, lengths, strings, choices of names and module errors,
each from its parts, and so of dispatch errors. Hence a dispatch error has one form, which is
read back whatever follows it, and no part of which is the form of another error.
-/

namespace Extrinsics

namespace Scale

/-- A reader reads a value from exactly those octets that begin with the form of the value,
and leaves the octets after it. Some values have no form. -/
def Reads {α : Type} (read : Reader α) (HasForm : α → Prop) (form : α → List UInt8) : Prop :=
  ∀ octets a rest, read octets = .ok (a, rest) ↔ HasForm a ∧ octets = form a ++ rest

/-- Telling the place of a part in its errors does not change what is read. -/
theorem Reads.at {α : Type} {read : Reader α} {HasForm : α → Prop} {form : α → List UInt8}
    (h : Reads read HasForm form) (place : String) :
  Reads (Reader.at place read) HasForm form
  := by
  intro octets a rest
  rw [← h octets a rest, Reader.at]
  cases read octets with
  | ok r => rfl
  | error e => simp

/-- What is made of a value that is read. -/
theorem Reads.wrap_eq_ok_iff {α β : Type} {read : Reader α} {HasForm : α → Prop}
    {form : α → List UInt8} (h : Reads read HasForm form) (wrap : α → β) {octets rest : List UInt8}
    {b : β} :
  (do
      let (a, rest) ← read octets
      return (wrap a, rest)) = .ok (b, rest)
    ↔ ∃ a, HasForm a ∧ octets = form a ++ rest ∧ wrap a = b
  := by
  rw [bind_eq_ok_iff]
  constructor
  · rintro ⟨⟨a, octets'⟩, hread, hpure⟩
    obtain ⟨rfl, rfl⟩ := Prod.mk.inj (Except.ok.inj hpure)
    obtain ⟨ha, rfl⟩ := (h _ _ _).1 hread
    use a
  · rintro ⟨a, ha, rfl, rfl⟩
    use (a, rest), (h _ _ _).2 ⟨ha, rfl⟩
    rfl

/-! ### Numbers -/

theorem reads_littleEndian (count : Nat) :
  Reads (readLittleEndian count) (fun n => n < 256 ^ count) (littleEndian count)
  := by
  induction count with
  | zero =>
    intro octets n rest
    simp only [readLittleEndian, littleEndian, Except.ok.injEq, Prod.mk.injEq, Nat.pow_zero,
      Nat.lt_one_iff, List.nil_append, eq_comm (a := n), eq_comm (a := octets)]
  | succ count ih =>
    intro octets n rest
    cases octets with
    | nil => simp [readLittleEndian, littleEndian]
    | cons b octets =>
      rw [readLittleEndian, bind_eq_ok_iff, littleEndian, List.cons_append, List.cons.injEq]
      have hb := b.toNat_lt
      constructor
      · rintro ⟨⟨m, octets'⟩, hread, hpure⟩
        obtain ⟨hm, rfl⟩ := (ih _ _ _).1 hread
        obtain ⟨rfl, rfl⟩ := Prod.mk.inj (Except.ok.inj hpure)
        have hmod : (b.toNat + 256 * m) % 256 = b.toNat := by omega
        have hdiv : (b.toNat + 256 * m) / 256 = m := by omega
        rw [hmod, hdiv, UInt8.ofNat_toNat, Nat.pow_succ]
        use by omega, rfl
      · rintro ⟨hn, rfl, rfl⟩
        rw [Nat.pow_succ] at hn
        use (n / 256, rest)
        constructor
        · apply (ih _ _ _).2
          use by omega
        · have hlow : (UInt8.ofNat (n % 256)).toNat = n % 256 := by
            rw [UInt8.toNat_ofNat']
            omega
          have hsum : (UInt8.ofNat (n % 256)).toNat + 256 * (n / 256) = n := by omega
          dsimp only
          rw [hsum]
          rfl

theorem atLeast_eq_ok_iff {least n n' : Nat} {rest rest' : List UInt8} :
  atLeast least n rest = .ok (n', rest') ↔ least ≤ n ∧ n = n' ∧ rest = rest'
  := by
  rw [atLeast]
  split
  · rename_i h
    simp [h]
  · rename_i h
    simp [h]

/-- The number of a wider form: its two low bits tell the form, and the rest is the length. -/
theorem readWide_eq_ok_iff {count least mode : Nat} (hmode : mode < 4) {octets rest : List UInt8}
    {n : Nat} :
  (∃ r, readLittleEndian count octets = .ok r ∧ atLeast least (r.1 / 4) r.2 = .ok (n, rest)
      ∧ r.1 % 4 = mode)
    ↔ (least ≤ n ∧ 4 * n + mode < 256 ^ count)
      ∧ octets = littleEndian count (4 * n + mode) ++ rest
  := by
  constructor
  · rintro ⟨⟨m, octets'⟩, hread, hleast, hlow⟩
    obtain ⟨hm, rfl⟩ := (reads_littleEndian count _ _ _).1 hread
    obtain ⟨hle, rfl, rfl⟩ := atLeast_eq_ok_iff.1 hleast
    have hsum : 4 * (m / 4) + mode = m := by
      dsimp only at hlow
      omega
    rw [hsum]
    use ⟨hle, hm⟩
  · rintro ⟨⟨hle, hlt⟩, hoctets⟩
    use (4 * n + mode, rest)
    refine ⟨(reads_littleEndian count _ _ _).2 ⟨hlt, hoctets⟩, atLeast_eq_ok_iff.2 ?_, ?_⟩
    · have hdiv : (4 * n + mode) / 4 = n := by omega
      dsimp only
      rw [hdiv]
      use hle, rfl
    · dsimp only
      omega

/-! ### Lengths -/

/-- A length has one of four forms, each for the lengths that are too great for the one
before. -/
theorem encodeLength_cases (n : Nat) :
  (n < 1 <<< 6 ∧ encodeLength n = littleEndian 1 (4 * n))
    ∨ (1 <<< 6 ≤ n ∧ n < 1 <<< 14 ∧ encodeLength n = littleEndian 2 (4 * n + 1))
    ∨ (1 <<< 14 ≤ n ∧ n < 1 <<< 30 ∧ encodeLength n = littleEndian 4 (4 * n + 2))
    ∨ (1 <<< 30 ≤ n ∧ encodeLength n = 3 :: littleEndian 4 n)
  := by
  rw [encodeLength]
  split
  · left
    use by assumption
  · split
    · right; left
      use by omega, by assumption
    · split
      · right; right; left
        use by omega, by assumption
      · right; right; right
        use by omega

/-- The two low bits of a number are those of its first octet. -/
theorem mod_of_littleEndian {count m : Nat} {b : UInt8} {octets rest : List UInt8}
    (h : b :: octets = littleEndian (count + 1) m ++ rest) :
  b.toNat % 4 = m % 4
  := by
  rw [littleEndian, List.cons_append, List.cons.injEq] at h
  rw [h.1, UInt8.toNat_ofNat']
  omega

/-- A wider form of a length is read by its mode. -/
theorem readLength_wide {count least mode n : Nat} {b : UInt8} {octets rest : List UInt8}
    (hmode : mode < 4) (hle : least ≤ n) (hlt : 4 * n + mode < 256 ^ (count + 1))
    (h : b :: octets = littleEndian (count + 1) (4 * n + mode) ++ rest) :
  b.toNat % 4 = mode
    ∧ (do
        let (m, rest) ← readLittleEndian (count + 1) (b :: octets)
        atLeast least (m / 4) rest) = .ok (n, rest)
  := by
  constructor
  · rw [mod_of_littleEndian h]
    omega
  · obtain ⟨r, hread, hleast, -⟩ := (readWide_eq_ok_iff hmode).2 ⟨⟨hle, hlt⟩, h⟩
    apply bind_eq_ok_iff.2
    use r

theorem readLength_encodeLength {n : Nat} (hn : n < 2 ^ 32) (rest : List UInt8) :
  readLength (encodeLength n ++ rest) = .ok (n, rest)
  := by
  obtain ⟨hlt, hform⟩ | ⟨hle, hlt, hform⟩ | ⟨hle, hlt, hform⟩ | ⟨hle, hform⟩ :=
    encodeLength_cases n
  · have hfirst : (UInt8.ofNat (4 * n % 256)).toNat = 4 * n := by
      rw [UInt8.toNat_ofNat']
      omega
    have hdiv : 4 * n / 4 = n := by omega
    rw [hform, littleEndian, littleEndian, List.cons_append, readLength, hfirst, if_pos (by omega),
      hdiv]
    rfl
  · obtain ⟨b, octets, hcons⟩ : ∃ b octets, b :: octets = littleEndian 2 (4 * n + 1) ++ rest :=
      ⟨_, _, rfl⟩
    obtain ⟨hlow, hread⟩ := readLength_wide (by decide) hle (by omega) hcons
    rw [hform, ← hcons, readLength, hlow, if_neg (by decide), if_pos rfl]
    apply hread
  · obtain ⟨b, octets, hcons⟩ : ∃ b octets, b :: octets = littleEndian 4 (4 * n + 2) ++ rest :=
      ⟨_, _, rfl⟩
    obtain ⟨hlow, hread⟩ := readLength_wide (by decide) hle (by omega) hcons
    rw [hform, ← hcons, readLength, hlow, if_neg (by decide), if_neg (by decide), if_pos rfl]
    apply hread
  · rw [hform, List.cons_append, readLength]
    apply bind_eq_ok_iff.2
    use (n, rest), (reads_littleEndian 4 _ _ _).2 ⟨hn, rfl⟩
    apply atLeast_eq_ok_iff.2
    use hle, rfl

theorem eq_encodeLength {octets rest : List UInt8} {n : Nat}
    (h : readLength octets = .ok (n, rest)) :
  n < 2 ^ 32 ∧ octets = encodeLength n ++ rest
  := by
  cases octets with
  | nil => cases h
  | cons b octets =>
    have hb := b.toNat_lt
    have hlow {count : Nat} {r : Nat × List UInt8}
        (hread : readLittleEndian (count + 1) (b :: octets) = .ok r) :
        r.1 % 4 = b.toNat % 4 :=
      (mod_of_littleEndian ((reads_littleEndian _ _ r.1 r.2).1 hread).2).symm
    rw [readLength] at h
    split at h
    · rename_i hmode
      obtain ⟨rfl, rfl⟩ := Prod.mk.inj (Except.ok.inj h)
      have hfour : 4 * (b.toNat / 4) % 256 = b.toNat := by omega
      rw [encodeLength, if_pos (by omega), littleEndian, littleEndian, hfour, UInt8.ofNat_toNat]
      exact ⟨by omega, rfl⟩
    · split at h
      · rename_i hmode
        obtain ⟨r, hread, hleast⟩ := bind_eq_ok_iff.1 h
        obtain ⟨⟨hle, hlt⟩, hoctets⟩ := (readWide_eq_ok_iff (by decide)).1
          ⟨r, hread, hleast, (hlow hread).trans hmode⟩
        rw [encodeLength, if_neg (by omega), if_pos (by omega)]
        use by omega, hoctets
      · split at h
        · rename_i hmode
          obtain ⟨r, hread, hleast⟩ := bind_eq_ok_iff.1 h
          obtain ⟨⟨hle, hlt⟩, hoctets⟩ := (readWide_eq_ok_iff (by decide)).1
            ⟨r, hread, hleast, (hlow hread).trans hmode⟩
          rw [encodeLength, if_neg (by omega), if_neg (by omega), if_pos (by omega)]
          use by omega, hoctets
        · split at h
          · rename_i hthree
            obtain ⟨⟨m, octets'⟩, hread, hleast⟩ := bind_eq_ok_iff.1 h
            obtain ⟨hlt, rfl⟩ := (reads_littleEndian _ _ _ _).1 hread
            obtain ⟨hle, rfl, rfl⟩ := atLeast_eq_ok_iff.1 hleast
            have hmark : b = 3 := UInt8.toNat_inj.1 hthree
            rw [encodeLength, if_neg (by omega), if_neg (by omega), if_neg (by omega), hmark]
            exact ⟨by omega, rfl⟩
          · cases h

theorem reads_length :
  Reads readLength (fun n => n < 2 ^ 32) encodeLength
  := by
  intro octets n rest
  constructor
  · apply eq_encodeLength
  · rintro ⟨hn, rfl⟩
    apply readLength_encodeLength hn

/-! ### Strings -/

theorem ofUtf8?_eq_some_iff {octets : List UInt8} {s : String} :
  ofUtf8? octets = some s ↔ octets = utf8 s
  := by
  rw [ofUtf8?, String.fromUTF8?]
  split
  · rw [Option.some.injEq]
    constructor
    · rintro rfl
      rfl
    · rintro rfl
      rfl
  · rename_i h
    constructor
    · rintro ⟨⟩
    · rintro rfl
      exact (h s.isValidUTF8).elim

theorem reads_text :
  Reads readText (fun s => (utf8 s).length < 2 ^ 32) encodeText
  := by
  intro octets s rest
  rw [readText, bind_eq_ok_iff, encodeText, List.append_assoc]
  constructor
  · rintro ⟨⟨length, octets'⟩, hlength, htext⟩
    obtain ⟨hlt, rfl⟩ := (reads_length _ _ _).1 hlength
    dsimp only at htext
    split at htext
    · cases htext
    · rename_i henough
      split at htext
      · rename_i s' hs
        obtain ⟨rfl, rfl⟩ := Prod.mk.inj (Except.ok.inj htext)
        have htake := ofUtf8?_eq_some_iff.1 hs
        have hcount : (utf8 s').length = length := by
          rw [← htake, List.length_take]
          omega
        dsimp only
        rw [hcount, ← htake, List.take_append_drop]
        use hlt
      · cases htext
  · rintro ⟨hlt, rfl⟩
    use ((utf8 s).length, utf8 s ++ rest), (reads_length _ _ _).2 ⟨hlt, rfl⟩
    have henough : ¬ (utf8 s ++ rest).length < (utf8 s).length := by
      rw [List.length_append]
      omega
    dsimp only
    rw [if_neg henough, List.take_left, List.drop_left, ofUtf8?_eq_some_iff.2 rfl]

/-! ### Variants -/

theorem reads_variant (type : String) :
  Reads (readVariant type) (fun _ => True) (fun b => [b])
  := by
  intro octets b rest
  cases octets with
  | nil => simp [readVariant]
  | cons c octets => simp [readVariant]

/-- A choice is read by the position of the name in a list without repetitions. -/
theorem reads_choice {α : Type} [DecidableEq α] (type : String) {values : List α}
    (hnodup : values.Nodup) (hlength : values.length ≤ 256) :
  Reads (readChoice type values) (fun v => v ∈ values)
    (fun v => [UInt8.ofNat (values.idxOf v)])
  := by
  intro octets v rest
  rw [readChoice, bind_eq_ok_iff]
  constructor
  · rintro ⟨⟨n, octets'⟩, hvariant, hvalue⟩
    obtain ⟨-, rfl⟩ := (reads_variant type _ _ _).1 hvariant
    dsimp only at hvalue
    split at hvalue
    · rename_i v' hv
      obtain ⟨rfl, rfl⟩ := Prod.mk.inj (Except.ok.inj hvalue)
      obtain ⟨hn, rfl⟩ := List.getElem?_eq_some_iff.1 hv
      dsimp only
      rw [hnodup.idxOf_getElem, UInt8.ofNat_toNat]
      use List.getElem_mem hn
    · cases hvalue
  · rintro ⟨hv, rfl⟩
    use (UInt8.ofNat (values.idxOf v), rest), (reads_variant type _ _ _).2 ⟨trivial, rfl⟩
    have hposition : (UInt8.ofNat (values.idxOf v)).toNat = values.idxOf v := by
      rw [UInt8.toNat_ofNat']
      apply Nat.mod_eq_of_lt
      apply Nat.lt_of_lt_of_le (List.idxOf_lt_length_of_mem hv) hlength
    dsimp only
    rw [hposition, List.getElem?_idxOf hv]

/-! ### Module errors -/

theorem reads_octet :
  Reads readOctet (fun _ => True) (fun b => [b])
  := by
  intro octets b rest
  cases octets with
  | nil => simp [readOctet]
  | cons c octets => simp [readOctet]

theorem toList_four (v : Vector UInt8 4) :
  ∃ a b c d, v = #v[a, b, c, d] ∧ v.toList = [a, b, c, d]
  := by
  obtain ⟨⟨octets⟩, hsize⟩ := v
  obtain ⟨a, b, c, d, rfl⟩ := List.length_eq_four.1 hsize
  use a, b, c, d, rfl
  rfl

theorem reads_four :
  Reads readFour (fun _ => True) Vector.toList
  := by
  intro octets v rest
  constructor
  · intro h
    rw [readFour.eq_def] at h
    split at h
    · obtain ⟨rfl, rfl⟩ := Prod.mk.inj (Except.ok.inj h)
      exact ⟨trivial, rfl⟩
    · cases h
  · rintro ⟨-, rfl⟩
    obtain ⟨a, b, c, d, rfl, hlist⟩ := toList_four v
    rw [hlist]
    rfl

theorem octets_eq (e : ModuleError) :
  e.octets = e.error.toList
  := by
  obtain ⟨a, b, c, d, hfour, hlist⟩ := toList_four e.error
  rw [hlist, ModuleError.octets, hfour]
  rfl

theorem reads_module :
  Reads readModule (fun _ => True) fun e => e.index :: e.octets
  := by
  intro octets e rest
  rw [readModule, bind_eq_ok_iff]
  constructor
  · rintro ⟨⟨index, octets'⟩, hindex, hrest⟩
    obtain ⟨-, rfl⟩ := (reads_octet.at _ _ _ _).1 hindex
    obtain ⟨error, -, rfl, rfl⟩ := ((reads_four.at _).wrap_eq_ok_iff _).1 hrest
    dsimp only
    rw [octets_eq]
    exact ⟨trivial, rfl⟩
  · rintro ⟨-, rfl⟩
    use (e.index, e.octets ++ rest), (reads_octet.at _ _ _ _).2 ⟨trivial, rfl⟩
    apply ((reads_four.at _).wrap_eq_ok_iff _).2
    rw [octets_eq]
    use e.error, trivial, rfl

/-! ### Dispatch errors -/

/-- Whether an error has a form: the octets of a reason are counted with 32 bits. -/
def HasForm : DispatchError → Prop
  | .other reason => (utf8 reason).length < 2 ^ 32
  | _ => True

theorem reads_token :
  Reads (readChoice "TokenError" TokenError.all) (fun e => e ∈ TokenError.all)
    (fun e => [UInt8.ofNat (TokenError.all.idxOf e)])
  := reads_choice _ (by decide) (by decide)

theorem reads_arithmetic :
  Reads (readChoice "ArithmeticError" ArithmeticError.all) (fun e => e ∈ ArithmeticError.all)
    (fun e => [UInt8.ofNat (ArithmeticError.all.idxOf e)])
  := reads_choice _ (by decide) (by decide)

/-- The form of an error is read back, whatever follows it. -/
theorem read_encode {e : DispatchError} (h : HasForm e) (rest : List UInt8) :
  read (encode e ++ rest) = .ok (e, rest)
  := by
  cases e with
  | other reason =>
    apply ((reads_text.at "DispatchError::Other.0").wrap_eq_ok_iff DispatchError.other).2
    use reason, h
    constructor <;> rfl
  | module e =>
    apply ((reads_module.at "DispatchError::Module.0").wrap_eq_ok_iff DispatchError.module).2
      ⟨e, trivial, (rfl : e.index :: e.octets ++ rest = _), rfl⟩
  | token e =>
    apply ((reads_token.at "DispatchError::Token.0").wrap_eq_ok_iff DispatchError.token).2
    use e, by cases e <;> decide
    constructor <;> rfl
  | arithmetic e =>
    apply ((reads_arithmetic.at "DispatchError::Arithmetic.0").wrap_eq_ok_iff
      DispatchError.arithmetic).2
    use e, by cases e <;> decide
    constructor <;> rfl
  | cannotLookup => rfl
  | badOrigin => rfl
  | consumerRemaining => rfl
  | noProviders => rfl
  | tooManyConsumers => rfl
  | exhausted => rfl
  | corruption => rfl
  | unavailable => rfl

/-- Octets of which an error is read begin with the form of the error. -/
theorem eq_encode {octets rest : List UInt8} {e : DispatchError}
    (h : read octets = .ok (e, rest)) :
  HasForm e ∧ octets = encode e ++ rest
  := by
  rw [read] at h
  obtain ⟨⟨variant, octets'⟩, hvariant, hpayload⟩ := bind_eq_ok_iff.1 h
  obtain ⟨-, rfl⟩ := (reads_variant _ _ _ _).1 hvariant
  have hnumber {k : Nat} (hk : variant.toNat = k) : variant = UInt8.ofNat k := by
    rw [← hk, UInt8.ofNat_toNat]
  dsimp only at hpayload
  split at hpayload
  case h_1 hk =>
    obtain ⟨reason, hlt, rfl, rfl⟩ := ((reads_text.at _).wrap_eq_ok_iff _).1 hpayload
    rw [hnumber hk]
    exact ⟨hlt, rfl⟩
  case h_4 hk =>
    obtain ⟨e, -, rfl, rfl⟩ := ((reads_module.at _).wrap_eq_ok_iff _).1 hpayload
    rw [hnumber hk]
    exact ⟨trivial, rfl⟩
  case h_8 hk =>
    obtain ⟨e, -, rfl, rfl⟩ := ((reads_token.at _).wrap_eq_ok_iff _).1 hpayload
    rw [hnumber hk]
    exact ⟨trivial, rfl⟩
  case h_9 hk =>
    obtain ⟨e, -, rfl, rfl⟩ := ((reads_arithmetic.at _).wrap_eq_ok_iff _).1 hpayload
    rw [hnumber hk]
    exact ⟨trivial, rfl⟩
  case h_13 => cases hpayload
  -- The other variants have no payload.
  all_goals
    rename_i hk
    obtain ⟨rfl, rfl⟩ := Prod.mk.inj (Except.ok.inj hpayload)
    rw [hnumber hk]
    exact ⟨trivial, rfl⟩

/-- Dispatch errors are read from their forms, and from nothing else. -/
theorem reads_dispatchError :
  Reads read HasForm encode
  := by
  intro octets e rest
  constructor
  · apply eq_encode
  · rintro ⟨h, rfl⟩
    apply read_encode h

/-- Octets decode to an error when they begin with its form. -/
theorem decode_eq_ok_iff {octets : List UInt8} {e : DispatchError} :
  decode octets = .ok e ↔ HasForm e ∧ encode e <+: octets
  := by
  rw [decode]
  constructor
  · intro h
    cases hread : read octets with
    | error cause =>
      rw [hread] at h
      cases h
    | ok r =>
      rw [hread] at h
      cases h
      obtain ⟨hform, hoctets⟩ := (reads_dispatchError _ _ _).1 hread
      use hform, r.2, hoctets.symm
  · rintro ⟨hform, rest, rfl⟩
    rw [(reads_dispatchError _ _ _).2 ⟨hform, rfl⟩]
    rfl

/-- A proper part of the beginning of a form decodes to nothing. -/
theorem decode_eq_error {e : DispatchError} (h : HasForm e) {octets : List UInt8}
    (hpart : octets <+: encode e) (hne : octets ≠ encode e) :
  ∃ cause, decode octets = .error cause
  := by
  cases hdecode : decode octets with
  | error cause => use cause
  | ok e' =>
    obtain ⟨hform, hbegin⟩ := decode_eq_ok_iff.1 hdecode
    have hwhole : decode (encode e) = .ok e' := decode_eq_ok_iff.2 ⟨hform, hbegin.trans hpart⟩
    rw [decode_eq_ok_iff.2 ⟨h, List.prefix_rfl⟩] at hwhole
    cases hwhole
    exact (hne (hpart.eq_of_length_le hbegin.length_le)).elim

/-- A dispatch error is read back from its form, whatever follows it. Octets that decode to an
error begin with its form, which is the only one: no proper part of the beginning of a form
decodes, and octets decode to the same error only if they begin with the same form. -/
theorem canonical_decode :
  (∀ e, HasForm e → ∀ rest, decode (encode e ++ rest) = .ok e)
    ∧ (∀ octets e, decode octets = .ok e → HasForm e ∧ encode e <+: octets)
    ∧ (∀ e, HasForm e → ∀ octets, octets <+: encode e → octets ≠ encode e →
      ∃ cause, decode octets = .error cause)
    ∧ ∀ octets octets' e, decode octets = .ok e → decode octets' = .ok e →
      ∃ rest rest', octets = encode e ++ rest ∧ octets' = encode e ++ rest'
  := by
  refine ⟨?_, ?_, ?_, ?_⟩
  · intro e h rest
    apply decode_eq_ok_iff.2 ⟨h, List.prefix_append _ _⟩
  · intro octets e
    apply decode_eq_ok_iff.1
  · intro e h octets
    apply decode_eq_error h
  · intro octets octets' e h h'
    obtain ⟨-, rest, hrest⟩ := decode_eq_ok_iff.1 h
    obtain ⟨-, rest', hrest'⟩ := decode_eq_ok_iff.1 h'
    use rest, rest', hrest.symm, hrest'.symm

end Scale

namespace Samples

/-- An error whose reason is long enough for a length of two octets. -/
def longReason : DispatchError := .other (String.ofList (List.replicate 40 'é'))

end Samples

namespace Scale

theorem canonical_decode_longReason :
  HasForm Samples.longReason
    ∧ decode (encode Samples.longReason ++ [7, 0]) = .ok Samples.longReason
    ∧ ∃ cause, decode ((encode Samples.longReason).take 60) = .error cause
  := by
  have hform : HasForm Samples.longReason := by
    change (utf8 _).length < 2 ^ 32
    decide
  obtain ⟨hround, -, hpart, -⟩ := canonical_decode
  use hform, hround _ hform _
  apply hpart _ hform _ (List.take_prefix 60 _)
  decide

end Scale

end Extrinsics
