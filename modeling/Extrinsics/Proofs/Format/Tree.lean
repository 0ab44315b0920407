import Extrinsics.Format.Tree
import Extrinsics.Proofs.Steps
import Extrinsics.Proofs.Table

/-!
# Trees and JSON values

The value that a tree stands for has the members that the tree has. A JSON value whose objects list
their members in order is the value of its tree.
-/

namespace Extrinsics

/-! ### Order of members -/

namespace Json

mutual

/-- Every object in a value lists its members in ascending order of their keys. -/
def IsOrdered : Json → Prop
  | array items => ItemsOrdered items
  | object members => (members.Pairwise fun a b => a.1 < b.1) ∧ MembersOrdered members
  | _ => True

/-- Every object in a list of values lists its members in order. -/
def ItemsOrdered : List Json → Prop
  | [] => True
  | j :: l => j.IsOrdered ∧ ItemsOrdered l

/-- Every object in the values of some members lists its members in order. -/
def MembersOrdered : List (String × Json) → Prop
  | [] => True
  | (_, j) :: l => j.IsOrdered ∧ MembersOrdered l

end

theorem ofMembers_entries (t : Table Json) :
  ofMembers t.entries = ofTable t
  := by rw [ofMembers, Table.ofList_entries, ofTable]

theorem membersOrdered_iff {l : List (String × Json)} :
  MembersOrdered l ↔ ∀ m ∈ l, m.2.IsOrdered
  := by
  induction l with
  | nil => simp [MembersOrdered]
  | cons m l ih =>
    obtain ⟨k, j⟩ := m
    rw [MembersOrdered, ih, List.forall_mem_cons]

theorem isOrdered_ofMembers {l : List (String × Json)} (h : MembersOrdered l) :
  (ofMembers l).IsOrdered
  := by
  rw [ofMembers, IsOrdered]
  use (Table.ofList l).ascending
  rw [membersOrdered_iff] at h ⊢
  intro m hm
  apply h m (Table.mem_of_mem_ofList hm)

/-! ### Members by their keys -/

theorem member?_object_eq_none_iff {l : List (String × Json)} {k : String} :
  (object l).member? k = none ↔ k ∉ l.map Prod.fst
  := by
  rw [member?, Option.map_eq_none_iff, List.find?_eq_none, List.mem_map]
  constructor
  · rintro h ⟨m, hm, rfl⟩
    apply h m hm (beq_self_eq_true _)
  · intro h m hm hk
    apply h ⟨m, hm, eq_of_beq hk⟩

theorem mem_of_member? {l : List (String × Json)} {k : String} {j : Json}
    (h : (object l).member? k = some j) :
  (k, j) ∈ l
  := by
  obtain ⟨⟨k', j'⟩, hfind, rfl⟩ := Option.map_eq_some_iff.1 h
  have hkey := List.find?_some hfind
  rw [beq_iff_eq] at hkey
  subst hkey
  exact List.mem_of_find?_eq_some hfind

/-- What is found at a key stands for what was written there: it is the same, or it is null and
nothing was written. -/
def StandsFor (found written : Option Json) : Prop :=
  found = written ∨ found = some null ∧ written = none

/-- A member does not matter for other keys. -/
theorem member?_object_of_ne {k k' : String} (h : k ≠ k') (j : Json) (l l' : List (String × Json)) :
  (object (l ++ (k, j) :: l')).member? k' = (object (l ++ l')).member? k'
  := by
  rw [member?, member?, List.find?_append, List.find?_append, List.find?_cons_of_neg]
  simpa using h

end Json

namespace Tree

/-! ### The members of a value -/

theorem toJson_list_eq_ok_iff {items : List Tree} {c : Close} {j : Json} :
  (list items c).toJson = .ok j
    ↔ ∃ l, toItems items = .ok l ∧ checkClose Fault.read c = .ok () ∧ j = .array l
  := by
  rw [toJson]
  apply checked_eq_ok_iff

theorem toJson_object_eq_ok_iff {members : List (Option String × Tree)} {c : Close} {j : Json} :
  (object members c).toJson = .ok j
    ↔ ∃ l, toMembers members = .ok l ∧ checkClose Fault.read c = .ok () ∧ j = Json.ofMembers l
  := by
  rw [toJson]
  apply checked_eq_ok_iff

/-- A tree with the value of a string is that string. -/
theorem eq_text_of_toJson {t : Tree} {v : String} (h : t.toJson = .ok (.text v)) :
  t = .text v
  := by
  cases t with
  | text s =>
    rw [toJson] at h
    cases h
    rfl
  | list items c =>
    obtain ⟨l, -, -, ⟨⟩⟩ := toJson_list_eq_ok_iff.1 h
  | object members c =>
    obtain ⟨l, -, -, ⟨⟩⟩ := toJson_object_eq_ok_iff.1 h
  | _ =>
    rw [toJson] at h
    cases h

theorem mem_of_toMembers {members : List (Option String × Tree)} {l : List (String × Json)}
    (h : toMembers members = .ok l) {k : String} {j : Json} (hj : (k, j) ∈ l) :
  ∃ t, (some k, t) ∈ members ∧ t.toJson = .ok j
  := by
  induction members generalizing l with
  | nil =>
    rw [toMembers] at h
    cases h
    cases hj
  | cons m members ih =>
    obtain ⟨_ | k', t⟩ := m
    · rw [toMembers] at h
      cases h
    · rw [toMembers, bind_eq_ok_iff] at h
      obtain ⟨j', hvalue, h⟩ := h
      obtain ⟨l', hrest, h⟩ := bind_eq_ok_iff.1 h
      cases h
      rcases List.mem_cons.1 hj with hj | hj
      · cases hj
        use t, List.mem_cons_self
      · obtain ⟨t', ht', hvalue'⟩ := ih hrest hj
        use t', List.mem_cons_of_mem _ ht'

/-- A string that is the one member of the value of an object is a member of the object. -/
theorem mem_of_toJson_object {members : List (Option String × Tree)} {c : Close} {k v : String}
    (h : (object members c).toJson = .ok (.object [(k, .text v)])) :
  (some k, text v) ∈ members
  := by
  obtain ⟨l, hl, -, hj⟩ := toJson_object_eq_ok_iff.1 h
  have hentries : (Table.ofList l).entries = [(k, .text v)] := (Json.object.inj hj).symm
  have hmem : (k, Json.text v) ∈ l := by
    apply Table.mem_of_mem_ofList
    rw [hentries]
    exact List.mem_singleton_self _
  obtain ⟨t, ht, hvalue⟩ := mem_of_toMembers hl hmem
  rw [← eq_text_of_toJson hvalue]
  exact ht

/-! ### Trees of values -/

theorem ofMembers_append (l l' : List (String × Json)) :
  ofMembers (l ++ l') = ofMembers l ++ ofMembers l'
  := by
  induction l with
  | nil => rfl
  | cons m l ih => rw [List.cons_append, ofMembers, ih, ofMembers, List.cons_append]

mutual

theorem skip_ofJson : (j : Json) → (ofJson j).skip = .ok ()
  | .array l => by
    rw [ofJson, skip, skipItems_ofItems l]
    rfl
  | .object l => by
    rw [ofJson, skip, skipMembers_ofMembers l]
    rfl
  | .null | .flag _ | .whole _ | .real _ | .text _ => rfl

theorem skipItems_ofItems : (l : List Json) → skipItems (ofItems l) = .ok ()
  | [] => rfl
  | j :: l => by
    rw [ofItems, skipItems, skip_ofJson j]
    apply skipItems_ofItems l

theorem skipMembers_ofMembers : (l : List (String × Json)) → skipMembers (ofMembers l) = .ok ()
  | [] => rfl
  | (_, j) :: l => by
    rw [ofMembers, skipMembers, skip_ofJson j]
    apply skipMembers_ofMembers l

end

mutual

/-- A value whose objects list their members in order is the value of its tree. -/
theorem toJson_ofJson : {j : Json} → j.IsOrdered → (ofJson j).toJson = .ok j
  | .array l, h => toJson_list_eq_ok_iff.2 ⟨l, toItems_ofItems h, rfl, rfl⟩
  | .object l, ⟨hascending, h⟩ => toJson_object_eq_ok_iff.2
    ⟨l, toMembers_ofMembers h, rfl, (Json.ofMembers_entries ⟨l, hascending⟩).symm⟩
  | .null, _ | .flag _, _ | .whole _, _ | .real _, _ | .text _, _ => rfl

theorem toItems_ofItems : {l : List Json} → Json.ItemsOrdered l → toItems (ofItems l) = .ok l
  | [], _ => rfl
  | _ :: _, ⟨hj, hl⟩ => by
    rw [ofItems, toItems, toJson_ofJson hj, toItems_ofItems hl]
    rfl

theorem toMembers_ofMembers :
    {l : List (String × Json)} → Json.MembersOrdered l → toMembers (ofMembers l) = .ok l
  | [], _ => rfl
  | (_, _) :: _, ⟨hj, hl⟩ => by
    rw [ofMembers, toMembers, toJson_ofJson hj, toMembers_ofMembers hl]
    rfl

end

mutual

/-- The value of a tree lists the members of its objects in order. -/
theorem isOrdered_of_toJson : {t : Tree} → {j : Json} → t.toJson = .ok j → j.IsOrdered
  | .list _ _, _, h => by
    obtain ⟨l, hl, -, rfl⟩ := toJson_list_eq_ok_iff.1 h
    apply itemsOrdered_of_toItems hl
  | .object _ _, _, h => by
    obtain ⟨l, hl, -, rfl⟩ := toJson_object_eq_ok_iff.1 h
    apply Json.isOrdered_ofMembers
    apply membersOrdered_of_toMembers hl
  | .null, _, h | .flag _, _, h | .whole _, _, h | .real _, _, h | .text _, _, h => by
    cases h
    trivial
  | .flawed _, _, h | .broken _, _, h => nomatch h

theorem itemsOrdered_of_toItems :
    {l : List Tree} → {items : List Json} → toItems l = .ok items → Json.ItemsOrdered items
  | [], _, h => by
    cases h
    trivial
  | _ :: _, _, h => by
    rw [toItems, bind_eq_ok_iff] at h
    obtain ⟨j, hj, h⟩ := h
    obtain ⟨l, hl, ⟨⟩⟩ := bind_eq_ok_iff.1 h
    exact ⟨isOrdered_of_toJson hj, itemsOrdered_of_toItems hl⟩

theorem membersOrdered_of_toMembers :
    {l : List (Option String × Tree)} → {members : List (String × Json)} →
      toMembers l = .ok members → Json.MembersOrdered members
  | [], _, h => by
    cases h
    trivial
  | (none, _) :: _, _, h => nomatch h
  | (some _, _) :: _, _, h => by
    rw [toMembers, bind_eq_ok_iff] at h
    obtain ⟨j, hj, h⟩ := h
    obtain ⟨l, hl, ⟨⟩⟩ := bind_eq_ok_iff.1 h
    exact ⟨isOrdered_of_toJson hj, membersOrdered_of_toMembers hl⟩

end

end Tree

end Extrinsics
