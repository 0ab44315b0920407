import Mathlib.Data.List.Basic
import Extrinsics.Format.JsonText
import Extrinsics.Proofs.Format.Tree

/-!
# Reading JSON texts

A string whose characters stand for themselves is read as it is written. Any other string is read
shorter than it is written: an escape takes two characters or more. What is read of a text leaves an
end of the text.
-/

namespace Extrinsics.JsonText

/-! ### Strings -/

/-- A character that stands for itself in a string. -/
def IsUnescaped (c : Char) : Prop := c ≠ '"' ∧ c ≠ '\\' ∧ 0x20 ≤ c.toNat

instance (c : Char) : Decidable (IsUnescaped c) := inferInstanceAs (Decidable (_ ∧ _ ∧ _))

theorem isUnescaped_of_all {l : List Char} (h : l.all fun c => decide (IsUnescaped c)) :
  ∀ c ∈ l, IsUnescaped c
  := fun c hc => of_decide_eq_true (List.all_eq_true.1 h c hc)

theorem scan_cons {c : Char} (h : IsUnescaped c) (rest : List Char) :
  scan (c :: rest) = (scan rest).cons c
  := by
  obtain ⟨hquote, hslash, hcontrol⟩ := h
  rw [scan.eq_def]
  split
  · rename_i h
    cases h
  · rename_i h
    cases h
    exact (hquote rfl).elim
  · rename_i h
    cases h
    exact (hslash rfl).elim
  · rename_i h
    cases h
    exact (hslash rfl).elim
  · rename_i h
    cases h
    exact (hslash rfl).elim
  · rename_i h
    cases h
    exact (hslash rfl).elim
  · rename_i h
    cases h
    rw [if_neg (Nat.not_lt.2 hcontrol)]

/-- What the scan of a string comes to, given by its first step. -/
inductive Scans : List Char → Scanned → Prop where
  | stopped (l : List Char) (f : Fault) : Scans l (.stopped f)
  | closing (rest : List Char) : Scans ('"' :: rest) (.text [] rest)
  | plain {c : Char} (hc : IsUnescaped c) (l : List Char) : Scans (c :: l) ((scan l).cons c)
  | escape (w : List Char) (hw : 2 ≤ w.length) (c : Char) (l : List Char) :
    Scans (w ++ l) ((scan l).cons c)
  | flaw (w : List Char) (hw : 2 ≤ w.length) (l : List Char) : Scans (w ++ l) (scan l).spoil
  | closingFlaw (w rest : List Char) : Scans (w ++ '"' :: rest) (.flawed rest)

theorem scans (l : List Char) :
  Scans l (scan l)
  := by
  fun_cases scan l with
  | case2 rest => exact .closing rest
  | case4 a b c d rest => exact .flaw ['\\', 'u', a, b, c, d] (by simp) rest
  | case6 a b c d n hn hlow hhigh a' b' c' d' rest =>
    exact .escape ['\\', 'u', a, b, c, d, '\\', 'u', a', b', c', d'] (by simp) _ rest
  | case7 a b c d n hn hlow hhigh a' b' c' d' rest =>
    exact .flaw ['\\', 'u', a, b, c, d, '\\', 'u', a', b', c', d'] (by simp) rest
  | case13 a b c d n hn hlow hhigh e rest =>
    exact .flaw ['\\', 'u', a, b, c, d, '\\', e] (by simp) rest
  | case14 a b c d n hn hlow hhigh rest =>
    exact .closingFlaw ['\\', 'u', a, b, c, d] rest
  | case16 a b c d n hn hlow hhigh x rest =>
    exact .flaw ['\\', 'u', a, b, c, d, x] (by simp) rest
  | case17 a b c d rest n =>
    exact .escape ['\\', 'u', a, b, c, d] (by simp) _ rest
  | case22 e rest h1 h2 val => exact .escape ['\\', e] (by simp) _ rest
  | case24 c rest hquote h1 h2 h3 h4 hcontrol =>
    refine .plain ⟨hquote, ?_, Nat.le_of_not_lt hcontrol⟩ rest
    rintro rfl
    cases rest with
    | nil => exact h3 rfl rfl
    | cons e rest => exact h4 e rest rfl rfl
  | _ => exact .stopped _ _

theorem scan_append {l : List Char} (h : ∀ c ∈ l, IsUnescaped c) (rest : List Char) :
  scan (l ++ '"' :: rest) = .text l rest
  := by
  induction l with
  | nil => rfl
  | cons c l ih =>
    obtain ⟨hc, hl⟩ := List.forall_mem_cons.1 h
    rw [List.cons_append, scan_cons hc, ih hl]
    rfl

/-- What a scan leaves after the string. -/
def Scanned.rest? : Scanned → Option (List Char)
  | text _ rest => some rest
  | flawed rest => some rest
  | stopped _ => none

theorem Scanned.rest?_cons (c : Char) (r : Scanned) :
  (r.cons c).rest? = r.rest?
  := by cases r <;> rfl

theorem Scanned.rest?_spoil (r : Scanned) :
  r.spoil.rest? = r.rest?
  := by
  cases r with
  | stopped f => cases f <;> rfl
  | _ => rfl

theorem Scanned.eq_text_of_cons {c : Char} {r : Scanned} {s rest : List Char}
    (h : r.cons c = .text s rest) :
  ∃ s', s = c :: s' ∧ r = .text s' rest
  := by
  cases r with
  | text s' rest' =>
    cases h
    use s', rfl
  | _ => cases h

/-- A string that is scanned stands in the text before its closing quote. It is no longer than what
stands there, and if it is as long it stands there unescaped. -/
theorem scan_eq_text {l s rest : List Char} (h : scan l = .text s rest) :
  ∃ w, l = w ++ '"' :: rest ∧ s.length ≤ w.length
    ∧ (s.length = w.length → w = s ∧ ∀ c ∈ s, IsUnescaped c)
  := by
  induction hn : l.length using Nat.strongRecOn generalizing l s with
  | ind n ih =>
    subst hn
    have hscans := scans l
    rw [h] at hscans
    generalize hr : Scanned.text s rest = r at hscans
    cases hscans with
    | stopped f => cases hr
    | closing rest' =>
      cases hr
      use []
      simp
    | @plain c hc l =>
      obtain ⟨s', rfl, hl⟩ := Scanned.eq_text_of_cons hr.symm
      obtain ⟨w, hw, hle, hsame⟩ := ih _ (Nat.lt_succ_self _) hl rfl
      use c :: w
      grind
    | escape v hv c l =>
      obtain ⟨s', rfl, hl⟩ := Scanned.eq_text_of_cons hr.symm
      obtain ⟨w, rfl, hle, -⟩ := ih _ (by rw [List.length_append]; omega) hl rfl
      use v ++ w
      grind
    | flaw v hv l =>
      cases hl : scan l with
      | stopped f =>
        rw [hl] at hr
        cases f <;> cases hr
      | _ =>
        rw [hl] at hr
        cases hr
    | closingFlaw v rest' => cases hr

/-- A scan leaves an end of the text. -/
theorem suffix_of_scan {l rest : List Char} (h : (scan l).rest? = some rest) :
  rest <:+ l
  := by
  induction hn : l.length using Nat.strongRecOn generalizing l with
  | ind n ih =>
    subst hn
    have hscans := scans l
    generalize scan l = r at h hscans
    cases hscans with
    | stopped f => cases h
    | closing rest' =>
      cases h
      apply List.suffix_cons
    | @plain c hc l =>
      rw [Scanned.rest?_cons] at h
      apply (ih _ (Nat.lt_succ_self _) h rfl).trans (List.suffix_cons c l)
    | escape v hv c l =>
      rw [Scanned.rest?_cons] at h
      apply (ih _ (by rw [List.length_append]; omega) h rfl).trans (List.suffix_append v l)
    | flaw v hv l =>
      rw [Scanned.rest?_spoil] at h
      apply (ih _ (by rw [List.length_append]; omega) h rfl).trans (List.suffix_append v l)
    | closingFlaw v rest' =>
      cases h
      apply (List.suffix_cons '"' rest).trans (List.suffix_append v _)

/-! ### What reading leaves -/

/-- A value is read from the beginning of a text: an end of the text is left, and a string stands in
the text with its two quotes. -/
structure ReadsFrom (s : List Char) (r : Result) : Prop where
  rest : ∀ rest, r.2 = some rest → rest <:+ s
  text : ∀ v, r.1 = .text v → v.length + 2 ≤ s.length

namespace ReadsFrom

variable {s rest : List Char} {r : Result} {t : Tree}

theorem mono (h : ReadsFrom s r) {s' : List Char} (hs : s <:+ s') :
  ReadsFrom s' r
  where
  rest := fun rest hrest => (h.rest rest hrest).trans hs
  text := fun v hv => Nat.le_trans (h.text v hv) hs.length_le

theorem broken (s : List Char) (f : Fault) :
  ReadsFrom s (.broken f, none)
  where
  rest := by
    rintro rest ⟨⟩
  text := by
    rintro v ⟨⟩

theorem of_ne_text (ht : ∀ v, t ≠ .text v) (hrest : rest <:+ s) :
  ReadsFrom s (t, some rest)
  where
  rest := by
    rintro rest ⟨⟩
    exact hrest
  text := fun v hv => (ht v hv).elim

end ReadsFrom

theorem suffix_wholeDigits (s : List Char) (d : Digits) :
  (wholeDigits s d).2 <:+ s
  := by
  fun_induction wholeDigits s d with
  | case1 => exact List.suffix_refl _
  | case2 => exact List.suffix_refl _
  | case3 _ _ _ _ _ _ _ ih => exact ih.trans (List.suffix_cons _ _)
  | case4 _ _ _ _ _ _ _ ih => exact ih.trans (List.suffix_cons _ _)

theorem suffix_fractionDigits (full : Bool) (s : List Char) (d : Digits) :
  (fractionDigits full s d).2 <:+ s
  := by
  fun_induction fractionDigits full s d with
  | case1 => exact List.suffix_refl _
  | case2 => exact List.suffix_refl _
  | case3 _ _ _ _ _ _ _ _ ih => exact ih.trans (List.suffix_cons _ _)
  | case4 _ _ _ _ _ _ _ _ ih => exact ih.trans (List.suffix_cons _ _)

theorem suffix_exponentDigits (s : List Char) (n : Nat) :
  (exponentDigits s n).2 <:+ s
  := by
  fun_induction exponentDigits s n with
  | case1 => exact List.suffix_refl _
  | case2 => exact List.suffix_refl _
  | case3 _ _ _ _ _ ih => exact ih.trans (List.suffix_cons _ _)

theorem realTree_ne_text (negative : Bool) (d : Digits) (v : String) :
  realTree negative d ≠ .text v
  := by
  rw [realTree]
  split <;> exact Tree.noConfusion

theorem wholeTree_ne_text (negative : Bool) (d : Digits) (v : String) :
  wholeTree negative d ≠ .text v
  := by
  rw [wholeTree]
  split_ifs
  · exact realTree_ne_text negative d v
  all_goals exact Tree.noConfusion

theorem readsFrom_exponentDigits (negative : Bool) (d : Digits) (down : Bool) (s : List Char) :
  ReadsFrom s (readExponentDigits negative d down s)
  := by
  cases s with
  | nil => exact .broken _ _
  | cons c s =>
    rw [readExponentDigits]
    cases digit? c with
    | none => exact .broken _ _
    | some k =>
      have hsuffix := suffix_exponentDigits (c :: s) 0
      generalize exponentDigits (c :: s) 0 = r at hsuffix
      dsimp only
      by_cases hlarge : 1 <<< 31 ≤ r.1
      · rw [if_pos hlarge]
        split
        · exact .of_ne_text (fun _ => Tree.noConfusion) hsuffix
        · exact .of_ne_text (fun _ => Tree.noConfusion) hsuffix
      · rw [if_neg hlarge]
        exact .of_ne_text (realTree_ne_text _ _) hsuffix

theorem readsFrom_exponent (negative : Bool) (d : Digits) (s : List Char) :
  ReadsFrom s (readExponent negative d s)
  := by
  rw [readExponent.eq_def]
  split
  · exact (readsFrom_exponentDigits _ _ _ _).mono (List.suffix_cons _ _)
  · exact (readsFrom_exponentDigits _ _ _ _).mono (List.suffix_cons _ _)
  · exact readsFrom_exponentDigits _ _ _ _

theorem readsFrom_fractionEnd (negative : Bool) (d : Digits) (s : List Char) :
  ReadsFrom s (readFractionEnd negative d s)
  := by
  rw [readFractionEnd.eq_def]
  split
  · exact (readsFrom_exponent _ _ _).mono (List.suffix_cons _ _)
  · exact (readsFrom_exponent _ _ _).mono (List.suffix_cons _ _)
  · exact .of_ne_text (realTree_ne_text _ _) (List.suffix_refl _)

theorem readsFrom_wholeEnd (negative : Bool) (d : Digits) (s : List Char) :
  ReadsFrom s (readWholeEnd negative d s)
  := by
  rw [readWholeEnd.eq_def]
  split
  · exact (readsFrom_exponent _ _ _).mono (List.suffix_cons _ _)
  · exact (readsFrom_exponent _ _ _).mono (List.suffix_cons _ _)
  · rename_i rest
    cases rest with
    | nil => exact .broken _ _
    | cons c rest =>
      dsimp only
      cases digit? c with
      | none => exact .broken _ _
      | some k =>
        exact (readsFrom_fractionEnd _ _ _).mono
          ((suffix_fractionDigits false _ d).trans (List.suffix_cons _ _))
  · exact .of_ne_text (wholeTree_ne_text _ _) (List.suffix_refl _)

theorem readsFrom_number (negative : Bool) (s : List Char) :
  ReadsFrom s (readNumber negative s)
  := by
  cases s with
  | nil => exact .broken _ _
  | cons c s =>
    rw [readNumber.eq_def]
    dsimp only
    split
    · exact .broken _ _
    · cases s with
      | nil => exact (readsFrom_wholeEnd _ _ _).mono (List.suffix_cons _ _)
      | cons d s =>
        dsimp only
        split
        · exact .broken _ _
        · exact (readsFrom_wholeEnd _ _ _).mono (List.suffix_cons _ _)
    · have hsuffix := suffix_wholeDigits (c :: s) ⟨0, 0⟩
      generalize wholeDigits (c :: s) ⟨0, 0⟩ = r at hsuffix
      exact (readsFrom_wholeEnd _ _ _).mono hsuffix

theorem readsFrom_word {t : Tree} (ht : ∀ v, t ≠ .text v) (word s : List Char) :
  ReadsFrom s (readWord t word s)
  := by
  induction word generalizing s with
  | nil =>
    rw [readWord]
    exact .of_ne_text ht (List.suffix_refl _)
  | cons w word ih =>
    cases s with
    | nil => exact .broken _ _
    | cons c s =>
      rw [readWord]
      split_ifs
      · exact (ih s).mono (List.suffix_cons c s)
      · exact .broken _ _

/-- The members of an object, or some of them, are read from the beginning of a text. -/
structure MembersFrom (s : List Char)
    (r : List (Option String × Tree) × Close × Option (List Char)) : Prop where
  rest : ∀ rest, r.2.2 = some rest → rest <:+ s
  text : ∀ k v, (k, Tree.text v) ∈ r.1 → v.length + 2 ≤ s.length

theorem MembersFrom.mono {s s' : List Char}
    {r : List (Option String × Tree) × Close × Option (List Char)} (h : MembersFrom s r)
    (hs : s <:+ s') :
  MembersFrom s' r
  where
  rest := fun rest hrest => (h.rest rest hrest).trans hs
  text := fun k v hv => Nat.le_trans (h.text k v hv) hs.length_le

theorem MembersFrom.halted (s : List Char) (c : Close) :
  MembersFrom s ([], c, none)
  where
  rest := by
    rintro rest ⟨⟩
  text := by
    rintro k v ⟨⟩

theorem MembersFrom.broken (s : List Char) (k : Option String) (f : Fault) (c : Close) :
  MembersFrom s ([(k, .broken f)], c, none)
  where
  rest := by
    rintro rest ⟨⟩
  text := by
    intro k v hv
    simp at hv

/-- All readers with a bound on their calls. -/
structure ReadersFrom (fuel : Nat) : Prop where
  value : ∀ depth s, ReadsFrom s (readValue fuel depth s)
  items : ∀ depth first s rest, (readItems fuel depth first s).2.2 = some rest → rest <:+ s
  item : ∀ depth s rest, (readItem fuel depth s).2.2 = some rest → rest <:+ s
  members : ∀ depth first s, MembersFrom s (readMembers fuel depth first s)
  member : ∀ depth comma s, MembersFrom s (readMember fuel depth comma s)
  memberValue : ∀ depth key s, MembersFrom s (readMemberValue fuel depth key s)

theorem suffix_skipBlanks (s : List Char) :
  skipBlanks s <:+ s
  := List.dropWhile_suffix _

theorem MembersFrom.append {s rest : List Char} {k : Option String} {t : Tree}
    {r : List (Option String × Tree) × Close × Option (List Char)}
    (hvalue : ReadsFrom s (t, some rest)) (h : MembersFrom rest r) :
  MembersFrom s ((k, t) :: r.1, r.2)
  where
  rest := (h.mono (hvalue.rest rest rfl)).rest
  text := by
    intro k' v hv
    rcases List.mem_cons.1 hv with hv | hv
    · cases hv
      apply hvalue.text v rfl
    · apply (h.mono (hvalue.rest rest rfl)).text k' v hv

/-- The scan of a string as a value. -/
theorem readsFrom_scan (s : List Char) :
  ReadsFrom ('"' :: s) (match scan s with
    | .text s rest => (.text (String.ofList s), some rest)
    | .flawed rest => (.flawed .null, some rest)
    | .stopped f => (.broken f, none))
  := by
  have hsuffix (rest : List Char) (h : (scan s).rest? = some rest) : rest <:+ '"' :: s :=
    (suffix_of_scan h).trans (List.suffix_cons _ _)
  cases hscan : scan s with
  | text v rest' =>
    rw [hscan] at hsuffix
    obtain ⟨w, rfl, hle, -⟩ := scan_eq_text hscan
    constructor
    · exact hsuffix
    · rintro _ ⟨⟩
      simp
      omega
  | flawed rest' =>
    rw [hscan] at hsuffix
    exact .of_ne_text (fun _ => Tree.noConfusion) (hsuffix rest' rfl)
  | stopped f => exact .broken _ _

theorem atDepth_ne_text {depth : Nat} {t : Tree} (ht : ∀ v, t ≠ .text v) (v : String) :
  atDepth depth t ≠ .text v
  := by
  rw [atDepth]
  split
  · exact Tree.noConfusion
  · exact ht v

theorem ReadersFrom.succ {fuel : Nat} (h : ReadersFrom fuel) :
  ReadersFrom (fuel + 1)
  where
  value := by
    intro depth s
    rw [readValue]
    refine ReadsFrom.mono (s := skipBlanks s) ?_ (suffix_skipBlanks s)
    cases skipBlanks s with
    | nil => exact .broken _ _
    | cons c rest =>
      dsimp only
      split_ifs with hn ht hf hquote hminus hdigit hlist hobject
      · exact (readsFrom_word (fun _ => Tree.noConfusion) _ _).mono (List.suffix_cons c rest)
      · exact (readsFrom_word (fun _ => Tree.noConfusion) _ _).mono (List.suffix_cons c rest)
      · exact (readsFrom_word (fun _ => Tree.noConfusion) _ _).mono (List.suffix_cons c rest)
      · subst hquote
        apply readsFrom_scan
      · exact (readsFrom_number _ _).mono (List.suffix_cons c rest)
      · exact readsFrom_number _ _
      · constructor
        · intro rest' hrest
          exact (h.items _ _ _ _ hrest).trans (List.suffix_cons c rest)
        · intro v hv
          exact (atDepth_ne_text (fun _ => Tree.noConfusion) v hv).elim
      · constructor
        · intro rest' hrest
          exact ((h.members _ _ _).rest _ hrest).trans (List.suffix_cons c rest)
        · intro v hv
          exact (atDepth_ne_text (fun _ => Tree.noConfusion) v hv).elim
      · exact .broken _ _
  items := by
    intro depth first s rest hrest
    rw [readItems] at hrest
    refine List.IsSuffix.trans ?_ (suffix_skipBlanks s)
    cases hs : skipBlanks s with
    | nil =>
      rw [hs] at hrest
      cases hrest
    | cons c s =>
      rw [hs] at hrest
      dsimp only at hrest
      split_ifs at hrest
      · cases hrest
        exact List.suffix_cons _ _
      · exact h.item _ _ _ hrest
      · split at hrest
        · cases hrest
        · exact ((h.item _ _ _ hrest).trans (suffix_skipBlanks s)).trans (List.suffix_cons c s)
  item := by
    intro depth s rest hrest
    rw [readItem] at hrest
    have hvalue := h.value depth s
    rcases hr : readValue fuel depth s with ⟨t, _ | rest'⟩
    · rw [hr] at hrest
      cases hrest
    · rw [hr] at hrest hvalue
      exact (h.items _ _ _ _ hrest).trans (hvalue.rest rest' rfl)
  members := by
    intro depth first s
    rw [readMembers]
    refine MembersFrom.mono (s := skipBlanks s) ?_ (suffix_skipBlanks s)
    cases skipBlanks s with
    | nil => exact .halted _ _
    | cons c s =>
      dsimp only
      split_ifs
      · constructor
        · rintro rest ⟨⟩
          exact List.suffix_cons _ _
        · rintro k v ⟨⟩
      · exact (h.member _ _ _).mono (List.suffix_cons c s)
      · exact .halted _ _
      · refine MembersFrom.mono (s := skipBlanks s) ?_
          ((suffix_skipBlanks s).trans (List.suffix_cons c s))
        split
        · rename_i rest hs
          rw [hs]
          exact (h.member _ _ _).mono (List.suffix_cons _ _)
        · exact .halted _ _
        · exact .halted _ _
      · exact .halted _ _
  member := by
    intro depth comma s
    rw [readMember]
    have hsuffix (rest : List Char) : (scan s).rest? = some rest → rest <:+ s := suffix_of_scan
    cases hscan : scan s with
    | stopped f => exact .halted _ _
    | text key rest =>
      rw [hscan] at hsuffix
      exact (h.memberValue _ _ _).mono (hsuffix rest rfl)
    | flawed rest =>
      rw [hscan] at hsuffix
      exact (h.memberValue _ _ _).mono (hsuffix rest rfl)
  memberValue := by
    intro depth key s
    rw [readMemberValue]
    refine MembersFrom.mono (s := skipBlanks s) ?_ (suffix_skipBlanks s)
    split
    · rename_i rest hs
      refine MembersFrom.mono (s := rest) ?_ (by rw [hs]; exact List.suffix_cons _ _)
      have hvalue := h.value depth rest
      rcases hr : readValue fuel depth rest with ⟨t, _ | rest'⟩
      · rw [hr] at hvalue
        constructor
        · rintro rest ⟨⟩
        · intro k v hv
          rw [List.mem_singleton] at hv
          cases hv
          exact hvalue.text v rfl
      · rw [hr] at hvalue
        exact .append hvalue (h.members _ _ _)
    · exact .broken _ _ _ _
    · exact .broken _ _ _ _

theorem readersFrom (fuel : Nat) :
  ReadersFrom fuel
  := by
  induction fuel with
  | zero =>
    constructor
    · intro depth s
      rw [readValue]
      exact .broken s _
    · intro depth first s rest h
      rw [readItems] at h
      cases h
    · intro depth s rest h
      rw [readItem] at h
      cases h
    · intro depth first s
      rw [readMembers]
      exact .halted s _
    · intro depth comma s
      rw [readMember]
      exact .halted s _
    · intro depth key s
      rw [readMemberValue]
      exact .halted s _
  | succ fuel ih => exact ih.succ

end Extrinsics.JsonText
