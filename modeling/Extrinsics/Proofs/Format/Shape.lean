import Extrinsics.Format.Shape
import Extrinsics.Proofs.Format.Tree

/-!
# Reading back what was written

A shape restores a value if the value is read back from the JSON value it is written as. Every form
of shape restores what its parts restore. A record is read back from every object that has its
members, whatever other members the object has, and from the list of its fields.
-/

namespace Extrinsics

namespace Shape

variable {α : Type}

/-- What is read where a value was written is this value. -/
def Restores (s : Shape α) (v : α) : Prop := s.ofJson (s.encode v) = .ok v

theorem Restores.decode {s : Shape α} {v : α} (h : s.Restores v) :
  s.decode .value (Tree.ofJson (s.encode v)) = .ok v
  := h

/-! ### Simple values -/

@[simp] theorem restores_text (v : String) : text.Restores v := rfl

@[simp] theorem restores_flag (b : Bool) : flag.Restores b := rfl

@[simp] theorem restores_word {width : Nat} (n : BitVec width) :
  (word width).Restores n
  := by
  have hfits : (0 ≤ (n.toNat : Int) && (n.toNat : Int).toNat < 2 ^ width) = true := by
    simp [n.isLt]
  show (if _ then _ else _) = _
  rw [if_pos hfits]
  simp

/-- A JSON value inside another one is restored if its objects list their members in order. -/
theorem restores_json {j : Json} (h : j.IsOrdered) :
  json.Restores j
  := by
  show ReadError.lift (Tree.ofJson j).toJson = _
  rw [Tree.toJson_ofJson h]
  rfl

/-- A choice restores a value that is the first one with its name. -/
theorem restores_choice {values : List α} {name : α → String} {v : α}
    (h : (values.find? fun w => name w == name v) = some v) :
  (choice values name).Restores v
  := by
  show readName values name (name v) = _
  rw [readName, h]

/-! ### Optional values, lists and tables -/

@[simp] theorem restores_optional_none (s : Shape α) : s.optional.Restores none := rfl

theorem restores_optional_some {s : Shape α} {v : α} (h : s.Restores v)
    (hnull : s.encode v ≠ .null) :
  s.optional.Restores (some v)
  := by
  have hdecode := h.decode
  rw [Restores, ofJson, encode]
  cases hj : s.encode v with
  | null => exact (hnull hj).elim
  | _ =>
    rw [hj] at hdecode
    show (_ >>= _) = _
    rw [hdecode]
    rfl

theorem restores_list {s : Shape α} {l : List α} (h : ∀ v ∈ l, s.Restores v) :
  s.list.Restores l
  := by
  have hitems : readItems (s.decode .value) (Tree.ofItems (l.map s.encode)) = .ok l := by
    induction l with
    | nil => rfl
    | cons v l ih =>
      obtain ⟨hv, hl⟩ := List.forall_mem_cons.1 h
      rw [List.map_cons, Tree.ofItems, readItems, hv.decode, ih hl]
      rfl
  show (_ >>= _) = _
  rw [hitems]
  rfl

theorem readEntries_ofMembers {s : Shape α} {l : List (String × α)} (h : ∀ e ∈ l, s.Restores e.2)
    (t : Table α) :
  readEntries (s.decode .value) (Tree.ofMembers (l.map fun e => (e.1, s.encode e.2))) t
    = .ok (l.foldl (fun t e => t.insert e.1 e.2) t)
  := by
  induction l generalizing t with
  | nil => rfl
  | cons e l ih =>
    obtain ⟨k, v⟩ := e
    obtain ⟨hv, hl⟩ := List.forall_mem_cons.1 h
    rw [List.map_cons, Tree.ofMembers, readEntries, hv.decode]
    apply ih hl

theorem restores_table {s : Shape α} {t : Table α} (h : ∀ e ∈ t.entries, s.Restores e.2) :
  s.table.Restores t
  := by
  have hentries := readEntries_ofMembers h .empty
  rw [← Table.ofList, Table.ofList_entries] at hentries
  show (readEntries (s.decode .value)
    (Tree.ofMembers (t.entries.map fun e => (e.1, s.encode e.2))) .empty >>= _) = _
  rw [hentries]
  rfl

end Shape

/-! ### Fields -/

namespace Fields

/-- The keys of the fields, in order. -/
def keys : {ρ σ : Type} → Fields ρ σ → List String
  | _, _, nil => []
  | _, _, field key _ _ _ rest => key :: rest.keys

/-- The JSON values of all fields in order, of those too that would be left out of an object. -/
def items : {ρ σ : Type} → Fields ρ σ → ρ → List Json
  | _, _, nil, _ => []
  | _, _, field _ _ _ s rest, (v, r) => s.encode v :: rest.items r

/-- Each field restores its value. If the value is not written it is the default, and what is read
from null. -/
def Restores : {ρ σ : Type} → Fields ρ σ → ρ → Prop
  | _, _, nil, _ => True
  | _, _, field _ default hidden s rest, (v, r) =>
    s.Restores v ∧ (hidden v → default = some v ∧ s.ofJson .null = .ok v) ∧ rest.Restores r

variable {α ρ σ : Type} {key : String} {s : Shape α} {rest : Fields ρ σ} {r : ρ}

@[simp] theorem restores_nil : nil.Restores () := trivial

@[simp] theorem restores_required {v : α} :
  (required key s rest).Restores (v, r) ↔ s.Restores v ∧ rest.Restores r
  := by simp [required, Restores]

@[simp] theorem restores_defaulted {default v : α} :
  (defaulted key default s rest).Restores (v, r) ↔ s.Restores v ∧ rest.Restores r
  := by simp [defaulted, Restores]

@[simp] theorem restores_optional {v : Option α} :
  (optional key s rest).Restores (v, r) ↔ s.optional.Restores v ∧ rest.Restores r
  := by simp [optional, Restores]

@[simp] theorem restores_omitted {v : Option α} :
  (omitted key s rest).Restores (v, r) ↔ s.optional.Restores v ∧ rest.Restores r
  := by
  have hnull : s.optional.ofJson .null = .ok none := rfl
  cases v <;> simp [omitted, Restores, hnull]

/-! ### Lists of fields -/

/-- The list of all fields is read back, and nothing is left over. -/
theorem decodeItems_items : {ρ σ : Type} → (fields : Fields ρ σ) → {r : ρ} → fields.Restores r →
    (expected : Expected) → (position : Nat) → (c : Close) →
  fields.decodeItems .value expected position (Tree.ofItems (fields.items r)) c = .ok (r, [])
  | _, _, .nil, _, _, _, _, _ => rfl
  | _, _, .field _ _ _ s rest, (v, r), h, expected, position, c => by
    obtain ⟨hv, -, hr⟩ := h
    rw [items, Tree.ofItems, decodeItems, decodeItems_items rest hr, hv.decode]
    rfl

/-! ### Objects with the fields among their members -/

/-- For each field, a value with its key that is read as its value, or no value with its key and the
default for it. -/
def Holds : {ρ σ : Type} → Fields ρ σ → (String → Option Json) → ρ → Prop
  | _, _, nil, _, _ => True
  | _, _, field key default _ s rest, get, (v, r) =>
    (match get key with
      | some j => s.ofJson j = .ok v
      | none => default = some v) ∧ rest.Holds get r

/-- Only the values at the keys of the fields matter. -/
theorem Holds.congr : {ρ σ : Type} → {fields : Fields ρ σ} → {get get' : String → Option Json} →
    {r : ρ} → fields.Holds get r → (∀ k ∈ fields.keys, get k = get' k) →
  fields.Holds get' r
  | _, _, .nil, _, _, _, _, _ => trivial
  | _, _, .field _ _ _ _ _, _, _, (_, _), hold, h => by
    obtain ⟨hv, hr⟩ := hold
    obtain ⟨hkey, hkeys⟩ := List.forall_mem_cons.1 h
    rw [hkey] at hv
    exact ⟨hv, hr.congr hkeys⟩

theorem readMembers_append {τ : Type} (put : String → Tree → τ → Except ReadError τ)
    (l l' : List (Option String × Tree)) (values : τ) :
  readMembers put (l ++ l') values = readMembers put l values >>= readMembers put l'
  := by
  induction l generalizing values with
  | nil => rfl
  | cons m l ih =>
    obtain ⟨_ | k, t⟩ := m
    · rfl
    · rw [List.cons_append, readMembers, readMembers]
      cases put k t values with
      | error e => rfl
      | ok values => apply ih

/-- Members that no field knows are passed over. -/
theorem readMembers_nil (l : List (String × Json)) :
  readMembers (nil.put .value) (Tree.ofMembers l) () = .ok ()
  := by
  induction l with
  | nil => rfl
  | cons m l ih =>
    have hskip : nil.put .value m.1 (Tree.ofJson m.2) () = .ok () := by
      rw [put, Tree.skip_ofJson]
      rfl
    rw [Tree.ofMembers, readMembers, hskip]
    apply ih

variable {default : Option α} {hidden : α → Bool} {value : Option α} {values values' : σ}

theorem put_of_ne {k : String} (h : k ≠ key) {t : Tree}
    (hput : rest.put .value k t values = .ok values') :
  (field key default hidden s rest).put .value k t (value, values) = .ok (value, values')
  := by
  cases value <;> rw [put, if_neg h, hput] <;> rfl

theorem put_key {t : Tree} {v : α} (hv : s.decode .value t = .ok v) :
  (field key default hidden s rest).put .value key t (none, values) = .ok (some v, values)
  := by
  rw [put, if_pos rfl, hv]
  rfl

/-- Members with other keys leave the place of a field as it is. -/
theorem readMembers_of_not_mem {l : List (String × Json)} (h : key ∉ l.map Prod.fst)
    (hrest : readMembers (rest.put .value) (Tree.ofMembers l) values = .ok values') :
  readMembers ((field key default hidden s rest).put .value) (Tree.ofMembers l) (value, values)
    = .ok (value, values')
  := by
  induction l generalizing values with
  | nil =>
    cases hrest
    rfl
  | cons m l ih =>
    obtain ⟨k, j⟩ := m
    rw [List.map_cons, List.mem_cons, not_or] at h
    rw [Tree.ofMembers, readMembers] at hrest ⊢
    obtain ⟨between, hput, hrest⟩ := bind_eq_ok_iff.1 hrest
    rw [put_of_ne (Ne.symm h.1) hput]
    apply ih h.2 hrest

/-- The one member with the key of a field fills its place. -/
theorem readMembers_of_mem {l l' : List (String × Json)} (h : key ∉ l.map Prod.fst)
    (h' : key ∉ l'.map Prod.fst) {j : Json} {v : α} (hv : s.ofJson j = .ok v)
    (hrest : readMembers (rest.put .value) (Tree.ofMembers (l ++ l')) values = .ok values') :
  readMembers ((field key default hidden s rest).put .value)
      (Tree.ofMembers (l ++ (key, j) :: l')) (none, values)
    = .ok (some v, values')
  := by
  rw [Tree.ofMembers_append, readMembers_append] at hrest ⊢
  obtain ⟨between, hbefore, hafter⟩ := bind_eq_ok_iff.1 hrest
  rw [readMembers_of_not_mem h hbefore]
  show readMembers _ (Tree.ofMembers ((key, j) :: l')) (none, between) = _
  rw [Tree.ofMembers, readMembers, put_key hv]
  apply readMembers_of_not_mem h' hafter

/-- A record is read from members that hold its fields, whatever other members there are. -/
theorem exists_readMembers : {ρ σ : Type} → (fields : Fields ρ σ) → fields.keys.Nodup →
    (l : List (String × Json)) → (l.map Prod.fst).Nodup → {r : ρ} →
    fields.Holds (Json.object l).member? r →
  ∃ values, readMembers (fields.put .value) (Tree.ofMembers l) fields.blank = .ok values
    ∧ fields.complete values = .ok r
  | _, _, .nil, _, l, _, _, _ => ⟨(), readMembers_nil l, rfl⟩
  | _, _, .field key default hidden s rest, hkeys, l, hl, (v, r), h => by
    obtain ⟨hkey, hkeys⟩ := List.nodup_cons.1 hkeys
    obtain ⟨hv, hr⟩ := h
    cases hget : (Json.object l).member? key with
    | none =>
      rw [hget] at hv
      obtain ⟨values, hread, hcomplete⟩ := exists_readMembers rest hkeys l hl hr
      use (none, values), readMembers_of_not_mem (Json.member?_object_eq_none_iff.1 hget) hread
      rw [complete, Option.none_or, hv, hcomplete]
      rfl
    | some j =>
      rw [hget] at hv
      obtain ⟨before, after, rfl⟩ := List.append_of_mem (Json.mem_of_member? hget)
      rw [List.map_append, List.map_cons, List.nodup_middle, List.nodup_cons, List.mem_append,
        not_or, ← List.map_append] at hl
      obtain ⟨⟨hbefore, hafter⟩, hl⟩ := hl
      have hothers : rest.Holds (Json.object (before ++ after)).member? r := by
        apply hr.congr
        intro k hk
        apply Json.member?_object_of_ne
        rintro rfl
        exact hkey hk
      obtain ⟨values, hread, hcomplete⟩ := exists_readMembers rest hkeys _ hl hothers
      use (some v, values), readMembers_of_mem hbefore hafter hv hread
      rw [complete, Option.some_or, hcomplete]
      rfl

/-! ### Written objects -/

theorem mem_keys_of_mem_encode : {ρ σ : Type} → (fields : Fields ρ σ) → {r : ρ} → {k : String} →
  k ∈ (fields.encode r).map Prod.fst → k ∈ fields.keys
  | _, _, .nil, _, _, h => h
  | _, _, .field _ _ _ _ rest, (_, _), _, h => by
    rw [encode] at h
    split_ifs at h
    · apply List.mem_cons_of_mem _ (mem_keys_of_mem_encode rest h)
    · apply (List.mem_cons.1 h).elim
      · rintro rfl
        apply List.mem_cons_self
      · intro h
        apply List.mem_cons_of_mem _ (mem_keys_of_mem_encode rest h)

/-- Members as they are written hold the fields, also with null in place of a member that is left
out. -/
theorem holds_of_standsFor : {ρ σ : Type} → (fields : Fields ρ σ) → fields.keys.Nodup → {r : ρ} →
    fields.Restores r → {get : String → Option Json} →
    (∀ k ∈ fields.keys, Json.StandsFor (get k) ((Table.ofList (fields.encode r)).get? k)) →
  fields.Holds get r
  | _, _, .nil, _, _, _, _, _ => trivial
  | _, _, .field key default hidden s rest, hkeys, (v, r), hrestores, get, h => by
    obtain ⟨hkey, hkeys⟩ := List.nodup_cons.1 hkeys
    obtain ⟨hv, hhidden, hr⟩ := hrestores
    obtain ⟨hfirst, hothers⟩ := List.forall_mem_cons.1 h
    have hfresh : key ∉ (rest.encode r).map Prod.fst := mt (mem_keys_of_mem_encode rest) hkey
    rw [encode] at hfirst hothers
    split_ifs at hfirst hothers with hout
    · refine ⟨?_, holds_of_standsFor rest hkeys hr hothers⟩
      obtain ⟨hdefault, hnull⟩ := hhidden hout
      rw [Table.get?_ofList_eq_none hfresh] at hfirst
      rcases hfirst with hnone | ⟨hnone, -⟩
      · rw [hnone]
        exact hdefault
      · rw [hnone]
        exact hnull
    · rw [Table.get?_ofList_cons hfresh, if_pos rfl] at hfirst
      constructor
      · rcases hfirst with hsome | ⟨-, ⟨⟩⟩
        rw [hsome]
        exact hv
      · apply holds_of_standsFor rest hkeys hr
        intro k hk
        have hne : key ≠ k := by
          rintro rfl
          exact hkey hk
        have hstands := hothers k hk
        rw [Table.get?_ofList_cons hfresh, if_neg hne] at hstands
        exact hstands

end Fields

/-! ### Records -/

namespace Shape

variable {α ρ σ : Type} {name : String} {fields : Fields ρ σ} {make : ρ → α} {split : α → ρ} {v : α}

/-- A record is read back from every object with its members, also with null in place of a member
that is left out. -/
theorem ofJson_record_of_standsFor (hkeys : fields.keys.Nodup) (hmake : make (split v) = v)
    (hfields : fields.Restores (split v)) {t : Table Json}
    (ht : ∀ k ∈ fields.keys,
      Json.StandsFor (t.get? k) (((record name fields make split).encode v).member? k)) :
  (record name fields make split).ofJson (.ofTable t) = .ok v
  := by
  have hnodup : (t.entries.map Prod.fst).Nodup := t.nodup_keys
  obtain ⟨values, hread, hcomplete⟩ := fields.exists_readMembers hkeys t.entries hnodup
    (fields.holds_of_standsFor hkeys hfields ht)
  show (readMembers (fields.put .value) (Tree.ofMembers t.entries) fields.blank >>= _) = _
  rw [hread]
  show (fields.complete values >>= _) = _
  rw [hcomplete]
  show Except.ok (make (split v)) = _
  rw [hmake]

/-- A record is restored if its fields are. -/
theorem restores_record (hkeys : fields.keys.Nodup) (hmake : make (split v) = v)
    (hfields : fields.Restores (split v)) :
  (record name fields make split).Restores v
  := ofJson_record_of_standsFor (t := Table.ofList (fields.encode (split v))) hkeys hmake hfields
    fun _ _ => .inl rfl

/-- A record is read back from the list of its fields. -/
theorem ofJson_record_items (hmake : make (split v) = v) (hfields : fields.Restores (split v)) :
  (record name fields make split).ofJson (.array (fields.items (split v))) = .ok v
  := by
  show (fields.decodeItems .value (.recordOf name fields.count) 0
    (Tree.ofItems (fields.items (split v))) .closed >>= _) = _
  rw [fields.decodeItems_items hfields]
  show Except.ok (make (split v)) = _
  rw [hmake]

end Shape

end Extrinsics
