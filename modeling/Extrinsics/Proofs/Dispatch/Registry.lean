import Mathlib.Data.List.Induction
import Mathlib.Data.Nat.Digits.Defs
import Extrinsics.Dispatch.Registry
import Extrinsics.Proofs.Lists

/-!
# Registries by their declarations

A registry is put together from declarations of errors, one after the other. What it knows of an
error is what the last declaration for its pallet and the last declaration for the error itself
say. An error that is not declared keeps its generic text. This one has no point in it, so that it
is never mistaken for the text of a declared error.
-/

namespace Extrinsics

/-- The declaration of an error of a pallet. -/
structure Declaration where
  index : UInt8
  pallet : String
  variant : UInt8
  name : String
  docs : List String
deriving DecidableEq

namespace Declaration

/-- The last declaration for a pallet. -/
def lastOf? (index : UInt8) (ds : List Declaration) : Option Declaration :=
  (ds.filter fun d => d.index = index).getLast?

/-- The last declaration for a module error. -/
def lastFor? (e : ModuleError) (ds : List Declaration) : Option Declaration :=
  (ds.filter fun d => d.index = e.index ∧ d.variant = e.variant).getLast?

end Declaration

/-- Some declaration is for a module error. -/
def ModuleError.IsDeclared (e : ModuleError) (ds : List Declaration) : Prop :=
  ∃ d ∈ ds, d.index = e.index ∧ d.variant = e.variant

/-- A dispatch error is a module error, and some declaration is for it. -/
def DispatchError.IsDeclared (e : DispatchError) (ds : List Declaration) : Prop :=
  ∃ m, e = .module m ∧ m.IsDeclared ds

namespace Registry

/-- The registry of some declarations. -/
def ofDeclarations (ds : List Declaration) : Registry :=
  ds.foldl (fun r d => r.addError d.index d.pallet d.variant d.name d.docs) empty

variable {ds : List Declaration} {e : ModuleError}

/-! ### What a registry knows -/

theorem ofDeclarations_concat (ds : List Declaration) (d : Declaration) :
  ofDeclarations (ds ++ [d])
    = (ofDeclarations ds).addError d.index d.pallet d.variant d.name d.docs
  := List.foldl_append

/-- A pallet has the name that its last declaration gives. -/
theorem lookup_pallets (ds : List Declaration) (index : UInt8) :
  (ofDeclarations ds).pallets.lookup index
    = (Declaration.lastOf? index ds).map Declaration.pallet
  := by
  induction ds using List.reverseRecOn with
  | nil => rfl
  | append_singleton ds d ih =>
    rw [ofDeclarations_concat, addError, List.lookup_cons, ih, Declaration.lastOf?,
      Declaration.lastOf?, getLast?_filter_concat]
    by_cases h : d.index = index
    · simp [h]
    · have hne : (index == d.index) = false := beq_eq_false_iff_ne.2 (Ne.symm h)
      rw [hne, if_neg h]

/-- An error has the name and the documentation that its last declaration gives. -/
theorem lookup_errors (ds : List Declaration) (e : ModuleError) :
  (ofDeclarations ds).errors.lookup (e.index, e.variant)
    = (Declaration.lastFor? e ds).map fun d => (d.name, d.docs)
  := by
  induction ds using List.reverseRecOn with
  | nil => rfl
  | append_singleton ds d ih =>
    rw [ofDeclarations_concat, addError, List.lookup_cons, ih, Declaration.lastFor?,
      Declaration.lastFor?,
      getLast?_filter_concat fun d : Declaration => d.index = e.index ∧ d.variant = e.variant]
    by_cases h : d.index = e.index ∧ d.variant = e.variant
    · simp [h]
    · have hne : ((e.index, e.variant) == (d.index, d.variant)) = false := by
        apply beq_eq_false_iff_ne.2
        intro hsame
        obtain ⟨hindex, hvariant⟩ := Prod.mk.inj hsame
        apply h ⟨hindex.symm, hvariant.symm⟩
      rw [hne, if_neg h]

theorem isDeclared_iff (e : ModuleError) (ds : List Declaration) :
  e.IsDeclared ds ↔ (Declaration.lastFor? e ds).isSome
  := (isSome_getLast?_filter _ ds).symm

/-- Where an error is declared, so is its pallet. -/
theorem exists_lastOf? (h : e.IsDeclared ds) :
  ∃ d, Declaration.lastOf? e.index ds = some d
  := by
  obtain ⟨d, hd, hindex, -⟩ := h
  apply exists_getLast?_filter _ hd hindex

/-- A declared error is known by the last declarations. -/
theorem find_of_isDeclared (h : e.IsDeclared ds) :
  ∃ d d', Declaration.lastOf? e.index ds = some d ∧ Declaration.lastFor? e ds = some d'
    ∧ (ofDeclarations ds).find e = .ok ⟨d.pallet, d'.name, d'.docs⟩
  := by
  obtain ⟨d, hd⟩ := exists_lastOf? h
  obtain ⟨d', hd'⟩ := Option.isSome_iff_exists.1 ((isDeclared_iff e ds).1 h)
  use d, d', hd, hd'
  rw [find, lookup_pallets, lookup_errors, hd, hd']
  rfl

/-- An error that is not declared is not known, and neither is its pallet if that is not
declared. -/
theorem find_of_not_isDeclared (h : ¬ e.IsDeclared ds) :
  (ofDeclarations ds).find e
    = .error (if ∃ d ∈ ds, d.index = e.index then .unknownError e.index e.variant
      else .unknownModule e.index)
  := by
  have herror : Declaration.lastFor? e ds = none := by
    rwa [isDeclared_iff, Option.not_isSome_iff_eq_none] at h
  have hpallet := isSome_getLast?_filter (fun d : Declaration => d.index = e.index) ds
  rw [find, lookup_pallets, lookup_errors, herror, Declaration.lastOf?]
  cases hlast : (ds.filter fun d => d.index = e.index).getLast? with
  | none =>
    rw [hlast] at hpallet
    rw [if_neg fun hsome => Bool.noConfusion (hpallet.2 hsome)]
    rfl
  | some d =>
    rw [hlast] at hpallet
    rw [if_pos (hpallet.1 rfl)]
    rfl

/-! ### What it tells -/

/-- What a registry tells of a dispatch error: the words of the last declarations for a declared
error, and otherwise the generic text. -/
inductive Described (ds : List Declaration) :
    DispatchError → String × Option RegistryError → Prop where
  | declared {e : ModuleError} {d d' : Declaration}
      (hd : Declaration.lastOf? e.index ds = some d) (hd' : Declaration.lastFor? e ds = some d') :
    Described ds (.module e)
      (d.pallet ++ "." ++ d'.name ++ ": " ++ String.intercalate " " d'.docs, none)
  | unknown {e : ModuleError} (h : ¬ e.IsDeclared ds) :
    Described ds (.module e)
      ((DispatchError.module e).text, some (if ∃ d ∈ ds, d.index = e.index
        then .unknownError e.index e.variant else .unknownModule e.index))
  | other {e : DispatchError} (h : ∀ m, e ≠ .module m) : Described ds e (e.text, none)

theorem described_module (ds : List Declaration) (e : ModuleError) :
  Described ds (.module e) ((ofDeclarations ds).describe (.module e))
  := by
  rw [describe, DispatchError.module?]
  dsimp only
  by_cases h : e.IsDeclared ds
  · obtain ⟨d, d', hd, hd', hfind⟩ := find_of_isDeclared h
    rw [hfind]
    apply Described.declared hd hd'
  · rw [find_of_not_isDeclared h]
    apply Described.unknown h

theorem described (ds : List Declaration) (e : DispatchError) :
  Described ds e ((ofDeclarations ds).describe e)
  := by
  cases e with
  | module e => apply described_module
  | _ =>
    apply Described.other
    rintro m ⟨⟩

/-! ### Generic texts -/

theorem digit_ne_point {n : Nat} (h : n < 16) :
  Hex.digit n ≠ '.'
  := by
  revert n
  decide

theorem point_not_mem_encode (octets : List UInt8) :
  '.' ∉ Hex.encode octets
  := by
  intro h
  obtain ⟨b, -, hb⟩ := List.mem_flatMap.1 h
  have hlt := b.toNat_lt
  rcases List.mem_pair.1 hb with hb | hb
  · exact digit_ne_point (by omega) hb.symm
  · exact digit_ne_point (by omega) hb.symm

/-- The generic text of a module error has no point in it. -/
theorem point_not_mem_text (e : ModuleError) :
  '.' ∉ (DispatchError.module e).text.toList
  := by
  have hindex : '.' ∉ Nat.toDigits 10 e.index.toNat := by
    intro h
    have hdigit := Nat.isDigit_of_mem_toDigits (by decide) (by decide) h
    exact Bool.noConfusion hdigit
  have htext : (DispatchError.module e).text
      = "\x7b" ++ ("\"module\":" ++ ("\x7b" ++ ("\"index\":" ++ toString e.index.toNat
        ++ ",\"error\":\"0x" ++ Hex.text e.octets ++ "\"") ++ "\x7d")) ++ "\x7d" := rfl
  rw [htext, Hex.text]
  simp [hindex, point_not_mem_encode]

/-- The text of a declared error has one. -/
theorem point_mem_text (e : MetaError) :
  '.' ∈ e.text.toList
  := by
  rw [MetaError.text]
  simp

/-! ### Every error -/

theorem not_isDeclared_of_ne {e : DispatchError} (h : ∀ m, e ≠ .module m) :
  ¬ e.IsDeclared ds
  := by
  rintro ⟨m, hm, -⟩
  exact h m hm

theorem isDeclared_module_iff : (DispatchError.module e).IsDeclared ds ↔ e.IsDeclared ds
  := by
  constructor
  · rintro ⟨m, hm, h⟩
    cases hm
    exact h
  · intro h
    exact ⟨e, rfl, h⟩

theorem isDeclared_of_lastFor? {d : Declaration} (h : Declaration.lastFor? e ds = some d) :
  e.IsDeclared ds
  := by
  rw [isDeclared_iff, h]
  rfl

/-- A dispatch error is told in the words of the last declarations if it is declared, and in its
generic text otherwise. -/
theorem describe_fst_eq_iff (ds : List Declaration) (e : DispatchError) (s : String) :
  ((ofDeclarations ds).describe e).1 = s
    ↔ (∃ m d d', e = .module m ∧ Declaration.lastOf? m.index ds = some d
        ∧ Declaration.lastFor? m ds = some d'
        ∧ s = d.pallet ++ "." ++ d'.name ++ ": " ++ String.intercalate " " d'.docs)
      ∨ ¬ e.IsDeclared ds ∧ s = e.text
  := by
  have h := described ds e
  generalize (ofDeclarations ds).describe e = r at h ⊢
  constructor
  · rintro rfl
    cases h with
    | @declared m d d' hd hd' =>
      left
      use m, d, d', rfl, hd, hd'
    | unknown h =>
      right
      rw [isDeclared_module_iff]
      use h
    | other h =>
      right
      use not_isDeclared_of_ne h
  · intro hs
    cases h with
    | @declared m d d' hd hd' =>
      rcases hs with ⟨m', c, c', hm, hc, hc', rfl⟩ | ⟨hnot, -⟩
      · cases hm
        rw [hd] at hc
        rw [hd'] at hc'
        cases hc
        cases hc'
        rfl
      · exact (hnot (isDeclared_module_iff.2 (isDeclared_of_lastFor? hd'))).elim
    | unknown h =>
      rcases hs with ⟨m', c, c', hm, -, hc', -⟩ | ⟨-, rfl⟩
      · cases hm
        exact (h (isDeclared_of_lastFor? hc')).elim
      · rfl
    | other h =>
      rcases hs with ⟨m, -, -, hm, -⟩ | ⟨-, rfl⟩
      · exact (h m hm).elim
      · rfl

/-- The text that is told is another one than the generic text exactly for a declared error. -/
theorem describe_fst_ne_text_iff (ds : List Declaration) (e : DispatchError) :
  ((ofDeclarations ds).describe e).1 ≠ e.text ↔ e.IsDeclared ds
  := by
  have h := described ds e
  generalize (ofDeclarations ds).describe e = r at h ⊢
  cases h with
  | @declared m d d' hd hd' =>
    apply iff_of_true
    · intro hsame
      apply point_not_mem_text m
      rw [← hsame]
      apply point_mem_text ⟨d.pallet, d'.name, d'.docs⟩
    · apply isDeclared_module_iff.2 (isDeclared_of_lastFor? hd')
  | unknown h => exact iff_of_false (fun hne => hne rfl) (isDeclared_module_iff.not.2 h)
  | other h => exact iff_of_false (fun hne => hne rfl) (not_isDeclared_of_ne h)

/-- The registry fails for a module error that is not declared, and tells whether the pallet
is. -/
theorem describe_snd_eq_some_iff (ds : List Declaration) (e : DispatchError) (x : RegistryError) :
  ((ofDeclarations ds).describe e).2 = some x
    ↔ ∃ m, e = .module m ∧ ¬ m.IsDeclared ds ∧ x = if ∃ d ∈ ds, d.index = m.index
      then .unknownError m.index m.variant else .unknownModule m.index
  := by
  have h := described ds e
  generalize (ofDeclarations ds).describe e = r at h ⊢
  cases h with
  | declared hd hd' =>
    apply iff_of_false
    · rintro ⟨⟩
    · rintro ⟨m, hm, hnot, -⟩
      cases hm
      exact hnot (isDeclared_of_lastFor? hd')
  | @unknown m h =>
    constructor
    · rintro ⟨⟩
      use m, rfl, h
    · rintro ⟨m', hm, -, rfl⟩
      cases hm
      rfl
  | other h =>
    apply iff_of_false
    · rintro ⟨⟩
    · rintro ⟨m, hm, -⟩
      exact h m hm

variable {δ : Type}

theorem describeMetrics_eq_nil_iff (ds : List Declaration) (e : DispatchError) :
  ((ofDeclarations ds).describeMetrics e : List (Metric δ)) = []
    ↔ ¬ ∃ m, e = .module m ∧ ¬ m.IsDeclared ds
  := by
  have hnil : ((ofDeclarations ds).describeMetrics e : List (Metric δ)) = []
      ↔ ¬ ∃ y, ((ofDeclarations ds).describe e).2 = some y := by
    rw [describeMetrics]
    cases ((ofDeclarations ds).describe e).2 <;> simp
  rw [hnil]
  apply not_congr
  constructor
  · rintro ⟨y, hy⟩
    obtain ⟨m, hm, hnot, -⟩ := (describe_snd_eq_some_iff ds e y).1 hy
    use m, hm
  · rintro ⟨m, hm, hnot⟩
    exact ⟨_, (describe_snd_eq_some_iff ds e _).2 ⟨m, hm, hnot, rfl⟩⟩

theorem describeMetrics_eq_singleton_iff (ds : List Declaration) (e : DispatchError)
    (x : Metric δ) :
  (ofDeclarations ds).describeMetrics e = [x]
    ↔ ∃ m, e = .module m ∧ ¬ m.IsDeclared ds ∧ x = .error "registry"
      (if ∃ d ∈ ds, d.index = m.index then "REGISTRY_UNKNOWN_ERROR" else "REGISTRY_UNKNOWN_MODULE")
  := by
  have hsingle : (ofDeclarations ds).describeMetrics e = [x]
      ↔ ∃ y, ((ofDeclarations ds).describe e).2 = some y ∧ x = .error "registry" y.code := by
    rw [describeMetrics]
    cases ((ofDeclarations ds).describe e).2 <;> simp [eq_comm]
  rw [hsingle]
  simp only [describe_snd_eq_some_iff]
  constructor
  · rintro ⟨y, ⟨m, rfl, h, rfl⟩, rfl⟩
    use m, rfl, h
    split_ifs <;> rfl
  · rintro ⟨m, rfl, h, rfl⟩
    refine ⟨_, ⟨m, rfl, h, rfl⟩, ?_⟩
    split_ifs <;> rfl

/-- Of the four octets of a pallet, a registry looks at the first one only. -/
theorem find_congr (r : Registry) {e e' : ModuleError} (hindex : e.index = e'.index)
    (hvariant : e.variant = e'.variant) :
  r.find e = r.find e'
  := by rw [find, find, hindex, hvariant]

theorem describe_congr (ds : List Declaration) {e e' : ModuleError} (hindex : e.index = e'.index)
    (hvariant : e.variant = e'.variant) :
  ((ofDeclarations ds).describe (.module e)).2 = ((ofDeclarations ds).describe (.module e')).2
    ∧ (e.IsDeclared ds → (ofDeclarations ds).describe (.module e)
      = (ofDeclarations ds).describe (.module e'))
  := by
  rw [describe, describe, DispatchError.module?, DispatchError.module?]
  dsimp only
  rw [find_congr _ hindex hvariant]
  cases hfind : (ofDeclarations ds).find e' with
  | ok known => exact ⟨rfl, fun _ => rfl⟩
  | error unknown =>
    refine ⟨rfl, fun h => ?_⟩
    obtain ⟨d, d', -, -, hknown⟩ := find_of_isDeclared h
    rw [find_congr _ hindex hvariant, hfind] at hknown
    cases hknown

/-- A later declaration renames the pallet of an earlier one. -/
example :
  ((ofDeclarations [⟨59, "rewards", 4, "NotAssociated", ["No account", "is associated."]⟩,
      ⟨59, "crowdloanRewards", 5, "Closed", []⟩]).describe (.module ⟨59, #v[4, 1, 2, 3]⟩)).1
    = "crowdloanRewards.NotAssociated: No account is associated."
  := by decide

end Registry

end Extrinsics
