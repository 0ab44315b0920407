import Extrinsics.Config
import Extrinsics.Proofs.Format.Shape
import Extrinsics.Samples

/-!
# Reading back records and configurations

A record is read back from the object it is written as, from that object with more members and with
null in place of a block or an error that is missing, and from the list of its ten fields. A
configuration is read back from the object it is written as.
-/

namespace Extrinsics

/-! ### Configurations -/

namespace Shape

@[simp] theorem restores_optional_text (o : Option String) :
  text.optional.Restores o
  := by
  cases o with
  | none => exact restores_optional_none _
  | some v => exact restores_optional_some (restores_text v) Json.noConfusion

@[simp] theorem restores_optional_word {width : Nat} (o : Option (BitVec width)) :
  (word width).optional.Restores o
  := by
  cases o with
  | none => exact restores_optional_none _
  | some n => exact restores_optional_some (restores_word n) Json.noConfusion

end Shape

theorem Shape.encode_optional_text (o : Option String) :
  text.optional.encode o = .ofOption (o.map .text)
  := by cases o <;> rfl

theorem SupportedChain.restores_shape (c : SupportedChain) :
  shape.Restores c
  := by
  apply Shape.restores_record (by decide) rfl
  simp

theorem LogOptions.restores_shape (o : LogOptions) :
  shape.Restores o
  := by
  apply Shape.restores_record (by decide) rfl
  simp

theorem Network.restores_shape (n : Network) :
  shape.Restores n
  := by
  apply Shape.restores_record (by decide) rfl
  simp

theorem NetworkTable.restores_shape (t : NetworkTable) :
  shape.Restores t
  := by
  have hnetworks (l : Table Network) : Network.shape.table.Restores l :=
    Shape.restores_table fun e _ => e.2.restores_shape
  apply Shape.restores_record (by decide) rfl
  simp [hnetworks]

theorem Config.restores_shape (c : Config) :
  shape.Restores c
  := by
  have hchains (l : List SupportedChain) : SupportedChain.shape.list.Restores l :=
    Shape.restores_list fun c _ => c.restores_shape
  apply Shape.restores_record (by decide) rfl
  simp [hchains, NetworkTable.restores_shape, LogOptions.restores_shape]

/-! ### Records -/

theorem Status.restores_shape (s : Status) :
  shape.Restores s
  := Shape.restores_choice (by cases s <;> rfl)

namespace Record

/-- The keys of the fields of a record, in order. -/
def keys : List String :=
  ["hash", "method", "section", "sender", "args", "isSigned", "status", "blockHash",
    "dispatchError", "timestamp"]

/-- The values of the fields of a record, in order, with null for a block or an error that is
missing. -/
def items (r : Record) : List Json :=
  [.text r.hash, .text r.method, .text r.pallet, .text r.sender, r.args, .flag r.isSigned,
    .text r.status.name, .ofOption (r.blockHash.map .text), .ofOption (r.dispatchError.map .text),
    .ofNat r.timestamp.toNat]

/-- A field of the given record that its object leaves out. -/
def Lacks (r : Record) (k : String) : Prop :=
  k = "blockHash" ∧ r.blockHash = none ∨ k = "dispatchError" ∧ r.dispatchError = none

theorem member?_encode_of_lacks {r : Record} {k : String} (h : r.Lacks k) :
  (shape.encode r).member? k = none
  := by
  obtain ⟨hash, method, pallet, sender, args, isSigned, status, block, error, time⟩ := r
  apply Table.get?_ofList_eq_none
  rcases h with ⟨rfl, rfl : block = none⟩ | ⟨rfl, rfl : error = none⟩
  · cases error <;> simp [Fields.encode, Fields.required, Fields.omitted]
  · cases block <;> simp [Fields.encode, Fields.required, Fields.omitted]

/-- Records and configurations are read back from what they are written as. The arguments of a
record are a JSON value whose objects list their members in order. -/
theorem read_back :
  (∀ r : Record, r.args.IsOrdered →
    shape.ofJson (shape.encode r) = .ok r
      ∧ (∀ t : Table Json,
        (∀ k ∈ keys, t.get? k = (shape.encode r).member? k
          ∨ t.get? k = some .null ∧ r.Lacks k) →
        shape.ofJson (.ofTable t) = .ok r)
      ∧ shape.ofJson (.array r.items) = .ok r)
    ∧ ∀ c : Config, Config.shape.ofJson (Config.shape.encode c) = .ok c
  := by
  refine ⟨?_, Config.restores_shape⟩
  intro r hargs
  have hread (t : Table Json)
      (ht : ∀ k ∈ keys, Json.StandsFor (t.get? k) ((shape.encode r).member? k)) :
      shape.ofJson (.ofTable t) = .ok r := by
    refine Shape.ofJson_record_of_standsFor ?_ rfl ?_ ht
    · decide
    · simp [Shape.restores_json hargs, Status.restores_shape]
  refine ⟨?_, ?_, ?_⟩
  · exact hread (Table.ofList _) fun _ _ => .inl rfl
  · intro t ht
    apply hread
    intro k hk
    apply (ht k hk).imp_right
    rintro ⟨hnull, hlacks⟩
    exact ⟨hnull, member?_encode_of_lacks hlacks⟩
  · rw [items, ← Shape.encode_optional_text, ← Shape.encode_optional_text]
    refine Shape.ofJson_record_items (α := Record) rfl ?_
    simp [Shape.restores_json hargs, Status.restores_shape]

end Record

namespace Samples

/-- The record of a transfer that has just entered the ready pool. -/
def readyTransfer : Record := .ready "0xabc" transfer alice true 1700000000000

/-- The members of its object. -/
def transferMembers : List (String × Json) :=
  [("hash", .text "0xabc"), ("method", .text "transfer"), ("section", .text "balances"),
    ("sender", .text alice), ("args", transfer.args), ("isSigned", .flag true),
    ("status", .text "isReady"), ("timestamp", .ofNat 1700000000000)]

/-- These members with null in place of a block, and with a remark. -/
def remarkedTransfer : Table Json :=
  ((Table.ofList transferMembers).insert "blockHash" .null).insert "remark" (.array [.null])

end Samples

namespace Record

open Samples

theorem read_back_remarkedTransfer :
  readyTransfer.args.IsOrdered
    ∧ shape.ofJson (.ofTable remarkedTransfer) = .ok readyTransfer
    ∧ shape.ofJson (.array readyTransfer.items) = .ok readyTransfer
  := by
  have hargs : readyTransfer.args.IsOrdered := by
    refine ⟨?_, ⟨?_, trivial, trivial⟩, trivial, trivial⟩
    · decide
    · decide
  obtain ⟨-, hobject, hlist⟩ := read_back.1 readyTransfer hargs
  refine ⟨hargs, hobject remarkedTransfer ?_, hlist⟩
  intro k hk
  have hwritten : (shape.encode readyTransfer).member? k
      = (Table.ofList transferMembers).get? k := rfl
  have hknown : "remark" ≠ k := by
    rintro rfl
    revert hk
    decide
  rw [hwritten, remarkedTransfer, Table.get?_insert, if_neg hknown, Table.get?_insert]
  by_cases hblock : "blockHash" = k
  · subst hblock
    exact .inr ⟨rfl, .inl ⟨rfl, rfl⟩⟩
  · left
    rw [if_neg hblock]

end Record

end Extrinsics
