import Extrinsics.Proofs.Dispatch.Text
import Extrinsics.Proofs.Format.JsonDocument

/-!
# Generic texts as documents

The text of an error with a payload has the form of a JSON object, but a reason stands in it as it
is. The text is the document of its error exactly when the reason has no character that a JSON
string must escape.
-/

namespace Extrinsics.DispatchError

open JsonText

/-- What the text of an error with a payload is to say, as a JSON value. -/
def json? : DispatchError → Option Json
  | other reason => some (.object [("other", .text reason)])
  | module e => some (.object [("module",
      .object [("error", .text ("0x" ++ Hex.text e.octets)), ("index", .whole e.index.toNat)])])
  | token e => some (.object [("token", .text e.name)])
  | arithmetic e => some (.object [("arithmetic", .text e.name)])
  | _ => none

/-- A text of an object with one string is the document of that object if the string has no escapes,
and only then. -/
theorem read?_text_iff {e : DispatchError} {key value : String}
    (hkey : ∀ c ∈ key.toList, IsUnescaped c)
    (htext : e.text.toList
      = '\x7b' :: '"' :: (key.toList ++ '"' :: ':' :: '"' :: (value.toList ++ ['"', '\x7d']))) :
  read? e.text = some (.object [(key, .text value)]) ↔ ∀ c ∈ value.toList, IsUnescaped c
  := by
  constructor
  · intro h
    apply isUnescaped_of_read?_single hkey htext
    simpa only [String.ofList_toList] using h
  · intro h
    simpa only [String.ofList_toList] using read?_single hkey h htext

/-! ### Errors of pallets -/

theorem isUnescaped_digit {n : Nat} (h : n < 16) :
  IsUnescaped (Hex.digit n)
  := by
  revert n
  decide

theorem isUnescaped_encode (octets : List UInt8) :
  ∀ c ∈ Hex.encode octets, IsUnescaped c
  := by
  intro c hc
  obtain ⟨b, -, hc⟩ := List.mem_flatMap.1 hc
  have hb := b.toNat_lt
  rcases List.mem_pair.1 hc with rfl | rfl
  · apply isUnescaped_digit
    omega
  · apply isUnescaped_digit
    omega

/-- The document that the text of a pallet's error is. -/
theorem document_text_module (e : ModuleError) :
  document (module e).text.toList
    = ⟨.object [(some "module", .object [(some "index", .whole e.index.toNat),
        (some "error", .text ("0x" ++ Hex.text e.octets))] .closed)] .closed, false⟩
  := by
  have hmodule : ∀ c ∈ "module".toList, IsUnescaped c := isUnescaped_of_all (by decide)
  have hindex : ∀ c ∈ "index".toList, IsUnescaped c := isUnescaped_of_all (by decide)
  have herror : ∀ c ∈ "error".toList, IsUnescaped c := isUnescaped_of_all (by decide)
  have hdigits : ∀ c ∈ "0x".toList ++ Hex.encode e.octets, IsUnescaped c := by
    rw [List.forall_mem_append]
    exact ⟨isUnescaped_of_all (by decide), isUnescaped_encode e.octets⟩
  have hsmall : e.index.toNat ≤ greatestWord :=
    Nat.le_trans (Nat.le_of_lt e.index.toNat_lt) (by decide)
  have htext : (module e).text.toList = '\x7b' :: '"' :: ("module".toList ++ '"' :: ':'
      :: '\x7b' :: '"' :: ("index".toList ++ '"' :: ':' :: (Nat.toDigits 10 e.index.toNat ++ ','
        :: '"' :: ("error".toList ++ '"' :: ':' :: '"'
          :: (("0x".toList ++ Hex.encode e.octets) ++ '"' :: '\x7d' :: ['\x7d']))))) := by
    rw [toList_text_module, List.append_assoc]
    rfl
  apply document_of_readValue
  intro fuel
  obtain ⟨n, hn⟩ : ∃ n, fuel + (module e).text.toList.length = n + 12 :=
    ⟨fuel + (Nat.toDigits 10 e.index.toNat).length + (Hex.encode e.octets).length + 22, by
      rw [htext]
      simp
      omega⟩
  rw [hn, htext, readValue_single (n + 8) (by decide) hmodule,
    readValue_single (n + 4) (by decide) hindex, readValue_number _ _ hsmall]
  dsimp only
  rw [readMembers_next, readMember_key _ _ _ _ herror, readValue_string, scan_append hdigits]
  dsimp only
  rw [readMembers_end]
  dsimp only
  rw [readMembers_end, String.ofList_append]
  rfl

theorem read?_text_module (e : ModuleError) :
  read? (module e).text = (module e).json?
  := by
  rw [json?, read?_eq_some_iff, document_text_module]
  refine ⟨?_, rfl⟩
  have hinner (i j : Json) : Json.ofMembers [("index", i), ("error", j)]
      = .object [("error", j), ("index", i)] := by
    have hless : "error" < "index" := by decide
    dsimp only [Json.ofMembers, Table.ofList, List.foldl, Table.insert, Table.insertEntry,
      Table.empty]
    rw [if_pos hless]
  apply Tree.toJson_object_eq_ok_iff.2
  exact ⟨_, rfl, rfl, congrArg (fun j => Json.object [("module", j)]) (hinner _ _).symm⟩

/-! ### All errors with a payload -/

/-- The text of an error with a payload is a JSON document with the right value, unless the error
has a reason with a quote, a backslash or a control character. -/
theorem text_reads_iff {e : DispatchError} {j : Json} (h : e.json? = some j) :
  read? e.text = some j ↔ ∀ reason, e = other reason → ∀ c ∈ reason.toList, IsUnescaped c
  := by
  cases e with
  | other reason =>
    cases h
    rw [read?_text_iff (isUnescaped_of_all (by decide)) (toList_text_other reason)]
    constructor
    · rintro hreason _ ⟨⟩
      exact hreason
    · intro hreason
      apply hreason _ rfl
  | module e =>
    rw [read?_text_module, h]
    apply iff_of_true rfl
    rintro reason ⟨⟩
  | token e =>
    cases h
    have hname : ∀ c ∈ e.name.toList, IsUnescaped c := by
      cases e <;> exact isUnescaped_of_all (by decide)
    apply iff_of_true
    · apply (read?_text_iff (isUnescaped_of_all (by decide)) _).2 hname
      exact toList_quoted "\"token\":\"" e.name
    · rintro reason ⟨⟩
  | arithmetic e =>
    cases h
    have hname : ∀ c ∈ e.name.toList, IsUnescaped c := by
      cases e <;> exact isUnescaped_of_all (by decide)
    apply iff_of_true
    · apply (read?_text_iff (isUnescaped_of_all (by decide)) _).2 hname
      exact toList_quoted "\"arithmetic\":\"" e.name
    · rintro reason ⟨⟩
  | _ => cases h

theorem text_reads_quietReason :
  (other "out of gas").json? = some (.object [("other", .text "out of gas")])
    ∧ read? (other "out of gas").text = some (.object [("other", .text "out of gas")])
  := by
  use rfl
  apply (text_reads_iff rfl).2
  rintro reason ⟨⟩
  exact isUnescaped_of_all (by decide)

/-- The quote in a reason ends the string. -/
theorem not_text_reads_quotedReason :
  (other "a\"b").json? = some (.object [("other", .text "a\"b")])
    ∧ read? (other "a\"b").text = none
  := by
  use rfl
  apply Option.isNone_iff_eq_none.1
  decide +kernel

end Extrinsics.DispatchError
