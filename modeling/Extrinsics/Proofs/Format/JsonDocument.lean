import Extrinsics.Proofs.Format.JsonText

/-!
# Reading JSON documents

The text of a number that fits 64 bits is read as that number. The text of an object that has one
string is read as it is written if the string has no escapes, and only then.
-/

namespace Extrinsics.JsonText

/-! ### Documents -/

theorem read?_eq_some_iff (s : String) (j : Json) :
  read? s = some j
    ↔ (document s.toList).tree.toJson = .ok j ∧ (document s.toList).trailing = false
  := by
  have hdecode : Shape.json.decode .text (document s.toList).tree
      = ReadError.lift (document s.toList).tree.toJson := rfl
  rw [read?, decode, hdecode]
  cases (document s.toList).tree.toJson with
  | error d => simp [ReadError.lift]
  | ok j' => cases (document s.toList).trailing <;> simp [ReadError.lift]

variable (fuel depth : Nat) (rest : List Char)

theorem readValue_string :
  readValue (fuel + 1) depth ('"' :: rest) = match scan rest with
    | .text s rest => (.text (String.ofList s), some rest)
    | .flawed rest => (.flawed .null, some rest)
    | .stopped f => (.broken f, none)
  := by
  rw [readValue]
  rfl

theorem readValue_object (h : depth + 1 < depthLimit) :
  readValue (fuel + 1) depth ('\x7b' :: rest)
    = (.object (readMembers fuel (depth + 1) true rest).1
        (readMembers fuel (depth + 1) true rest).2.1,
      (readMembers fuel (depth + 1) true rest).2.2)
  := by
  rw [readValue]
  show (atDepth _ _, _) = _
  rw [atDepth, if_neg (Nat.not_le_of_lt h)]

theorem readMembers_first :
  readMembers (fuel + 1) depth true ('"' :: rest) = readMember fuel depth false rest
  := by
  rw [readMembers]
  rfl

theorem readMembers_next :
  readMembers (fuel + 1) depth false (',' :: '"' :: rest) = readMember fuel depth true rest
  := by
  rw [readMembers]
  rfl

theorem readMembers_end :
  readMembers (fuel + 1) depth false ('\x7d' :: rest) = ([], .closed, some rest)
  := by
  rw [readMembers]
  rfl

theorem readMember_key (comma : Bool) {key : List Char} (hkey : ∀ c ∈ key, IsUnescaped c) :
  readMember (fuel + 2) depth comma (key ++ '"' :: ':' :: rest)
    = match readValue fuel depth rest with
      | (t, none) => ([(some (String.ofList key), t)], .closed, none)
      | (t, some rest) =>
        ((some (String.ofList key), t) :: (readMembers fuel depth false rest).1,
          (readMembers fuel depth false rest).2)
  := by
  rw [readMember, scan_append hkey]
  dsimp only
  rw [readMemberValue]
  rfl

/-! ### Numbers -/

theorem digit?_digitChar {d : Nat} (h : d < 10) :
  digit? d.digitChar = some d
  := by
  revert d
  decide

theorem wholeDigits_toDigits {n : Nat} (h : n ≤ greatestWord) (rest : List Char) :
  wholeDigits (Nat.toDigits 10 n ++ rest) ⟨0, 0⟩ = wholeDigits rest ⟨n, 0⟩
  := by
  induction n using Nat.strongRecOn generalizing rest with
  | ind n ih =>
    rw [Nat.toDigits_eq_if (by decide)]
    split_ifs with hlt
    · rw [List.singleton_append, wholeDigits, digit?_digitChar hlt]
      simp [h]
    · have hsplit := Nat.div_add_mod n 10
      rw [List.append_assoc, ih (n / 10) (by omega) (by omega), List.singleton_append, wholeDigits,
        digit?_digitChar (Nat.mod_lt n (by decide))]
      dsimp only
      rw [Nat.mul_comm, hsplit, decide_eq_true h]
      rfl

/-- A number other than zero begins with a digit other than zero. -/
theorem toDigits_eq_cons {n : Nat} (h : n ≠ 0) :
  ∃ k l, Nat.toDigits 10 n = Nat.digitChar (k + 1) :: l ∧ k + 1 < 10
  := by
  induction n using Nat.strongRecOn with
  | ind n ih =>
    rw [Nat.toDigits_eq_if (by decide)]
    split_ifs with hlt
    · use n - 1, []
      rw [Nat.sub_add_cancel (Nat.pos_of_ne_zero h)]
      use rfl
    · obtain ⟨k, l, hl, hk⟩ := ih (n / 10) (by omega) (by omega)
      use k, l ++ [Nat.digitChar (n % 10)]
      rw [hl]
      use rfl

theorem readNumber_toDigits {n : Nat} (h : n ≤ greatestWord) (rest : List Char) :
  readNumber false (Nat.toDigits 10 n ++ ',' :: rest) = (.whole n, some (',' :: rest))
  := by
  by_cases hzero : n = 0
  · subst hzero
    rw [Nat.toDigits_zero]
    rfl
  · obtain ⟨k, l, hl, hk⟩ := toDigits_eq_cons hzero
    have hwhole := wholeDigits_toDigits h (',' :: rest)
    rw [hl, List.cons_append] at hwhole ⊢
    rw [readNumber.eq_def]
    dsimp only
    rw [digit?_digitChar hk, hwhole]
    rfl

theorem readValue_number {n : Nat} (h : n ≤ greatestWord) (rest : List Char) :
  readValue (fuel + 1) depth (Nat.toDigits 10 n ++ ',' :: rest) = (.whole n, some (',' :: rest))
  := by
  have hnumber := readNumber_toDigits h rest
  have hdigit (c : Char) (hc : c ∈ Nat.toDigits 10 n) : c.isDigit :=
    Nat.isDigit_of_mem_toDigits (by decide) (by decide) hc
  cases hl : Nat.toDigits 10 n with
  | nil => exact (Nat.toDigits_ne_nil hl).elim
  | cons c l =>
    rw [hl] at hnumber hdigit
    have hc := hdigit c List.mem_cons_self
    have hne (x : Char) (hx : x.isDigit = false) : c ≠ x := by
      rintro rfl
      rw [hc] at hx
      cases hx
    have hblank : isBlank c = false := by
      simp [isBlank, hne ' ' rfl, hne '\n' rfl, hne '\t' rfl, hne '\r' rfl]
    rw [List.cons_append, readValue, skipBlanks, List.dropWhile_cons, hblank]
    simpa [hne 'n' rfl, hne 't' rfl, hne 'f' rfl, hne '"' rfl, hne '-' rfl, hc] using hnumber

/-! ### Objects with one member -/

/-- The text of an object whose first member has a key without escapes. -/
theorem readValue_single (fuel : Nat) {depth : Nat} (hdepth : depth + 1 < depthLimit)
    {key : List Char} (hkey : ∀ c ∈ key, IsUnescaped c) (l : List Char) :
  readValue (fuel + 4) depth ('\x7b' :: '"' :: (key ++ '"' :: ':' :: l))
    = match readValue fuel (depth + 1) l with
      | (t, none) => (.object [(some (String.ofList key), t)] .closed, none)
      | (t, some rest) =>
        (.object ((some (String.ofList key), t) :: (readMembers fuel (depth + 1) false rest).1)
          (readMembers fuel (depth + 1) false rest).2.1,
          (readMembers fuel (depth + 1) false rest).2.2)
  := by
  rw [readValue_object _ _ _ hdepth, readMembers_first, readMember_key _ _ _ _ hkey]
  rcases readValue fuel (depth + 1) l with ⟨t, _ | rest⟩ <;> rfl

theorem tree_document (s : List Char) :
  (document s).tree = (readValue (4 * s.length + 4) 0 s).1
  := by
  rw [document]
  rcases readValue (4 * s.length + 4) 0 s with ⟨t, _ | rest⟩ <;> rfl

/-- The tree of an object whose first member is a string. -/
theorem tree_document_single {key : List Char} (hkey : ∀ c ∈ key, IsUnescaped c)
    (l : List Char) :
  ∃ n, (document ('\x7b' :: '"' :: (key ++ '"' :: ':' :: '"' :: l))).tree = match scan l with
    | .text v rest =>
      .object
        ((some (String.ofList key), .text (String.ofList v)) :: (readMembers n 1 false rest).1)
        (readMembers n 1 false rest).2.1
    | .flawed rest =>
      .object ((some (String.ofList key), .flawed .null) :: (readMembers n 1 false rest).1)
        (readMembers n 1 false rest).2.1
    | .stopped f => .object [(some (String.ofList key), .broken f)] .closed
  := by
  rw [tree_document]
  generalize hs : '\x7b' :: '"' :: (key ++ '"' :: ':' :: '"' :: l) = s
  obtain ⟨n, hn⟩ : ∃ n, 4 * s.length + 4 = n + 5 := by
    subst hs
    exact ⟨_, rfl⟩
  use n + 1
  rw [hn, ← hs, readValue_single (n + 1) (by decide) hkey, readValue_string]
  cases scan l <;> rfl

/-- A document that is read to its end. -/
theorem document_of_readValue {s : List Char} {t : Tree}
    (h : ∀ fuel, readValue (fuel + s.length) 0 s = (t, some [])) :
  document s = ⟨t, false⟩
  := by
  rw [document, show 4 * s.length + 4 = (3 * s.length + 4) + s.length by omega, h]
  rfl

/-- An object with a string without escapes as its one member is read as it is written. -/
theorem read?_single {key value : List Char} (hkey : ∀ c ∈ key, IsUnescaped c)
    (hvalue : ∀ c ∈ value, IsUnescaped c) {s : String}
    (hs : s.toList = '\x7b' :: '"' :: (key ++ '"' :: ':' :: '"' :: (value ++ ['"', '\x7d']))) :
  read? s = some (.object [(String.ofList key, .text (String.ofList value))])
  := by
  have hdocument : document s.toList
      = ⟨.object [(some (String.ofList key), .text (String.ofList value))] .closed, false⟩ := by
    apply document_of_readValue
    intro fuel
    obtain ⟨n, hn⟩ : ∃ n, fuel + s.toList.length = n + 5 :=
      ⟨fuel + key.length + value.length + 2, by
        rw [hs]
        simp
        omega⟩
    rw [hn, hs, readValue_single (n + 1) (by decide) hkey, readValue_string, scan_append hvalue]
    dsimp only
    rw [readMembers_end]
  rw [read?_eq_some_iff, hdocument]
  exact ⟨rfl, rfl⟩

/-- A string that fills a text up to its closing bracket, and is read as it is written, has no
escapes. -/
theorem isUnescaped_of_scan {value v rest : List Char}
    (h : scan (value ++ ['"', '\x7d']) = .text v rest) (hlength : v.length = value.length) :
  ∀ c ∈ v, IsUnescaped c
  := by
  obtain ⟨w, hw, hle, hplain⟩ := scan_eq_text h
  have hsum := congrArg List.length hw
  rw [List.length_append, List.length_append, List.length_cons, List.length_cons,
    List.length_nil] at hsum
  rcases rest with _ | ⟨c, rest⟩
  · have hlast := congrArg List.getLast? hw
    simp at hlast
  · apply (hplain _).2
    rw [List.length_cons, List.length_cons] at hsum
    omega

/-- Only a string without escapes is read as it is written. -/
theorem isUnescaped_of_read?_single {key value : List Char} (hkey : ∀ c ∈ key, IsUnescaped c)
    {s : String}
    (hs : s.toList = '\x7b' :: '"' :: (key ++ '"' :: ':' :: '"' :: (value ++ ['"', '\x7d'])))
    (h : read? s = some (.object [(String.ofList key, .text (String.ofList value))])) :
  ∀ c ∈ value, IsUnescaped c
  := by
  have hvalue := ((read?_eq_some_iff s _).1 h).1
  obtain ⟨n, htree⟩ := tree_document_single hkey (value ++ ['"', '\x7d'])
  rw [hs, htree] at hvalue
  cases hscan : scan (value ++ ['"', '\x7d']) with
  | stopped f =>
    rw [hscan] at hvalue
    obtain ⟨l, hl, -⟩ := Tree.toJson_object_eq_ok_iff.1 hvalue
    cases hl
  | flawed rest =>
    rw [hscan] at hvalue
    obtain ⟨l, hl, -⟩ := Tree.toJson_object_eq_ok_iff.1 hvalue
    cases hl
  | text v rest =>
    rw [hscan] at hvalue
    rcases List.mem_cons.1 (Tree.mem_of_toJson_object hvalue) with hv | hlater
    · cases String.ofList_injective (Tree.text.inj (Prod.mk.inj hv).2)
      exact isUnescaped_of_scan hscan rfl
    · -- A later member with this value does not fit into the text that is left.
      obtain ⟨w, hw, -, -⟩ := scan_eq_text hscan
      have hfit := ((readersFrom n).members 1 false rest).text _ _ hlater
      have hsum := congrArg List.length hw
      rw [List.length_append, List.length_append, List.length_cons, List.length_cons,
        List.length_nil, List.length_cons] at hsum
      rw [String.length_ofList] at hfit
      omega

end Extrinsics.JsonText
