import Extrinsics.Format.Mismatch

/-!
# Shapes

A shape says how the values of a type are written in a document. One shape serves to write
a value as JSON and to read it from a document tree of any origin.

A record is written as an object. It may also be read from a list of its fields in order.
Fields that are not known are passed over; fields that are missing take their default, if
they have one. A choice among names is written as its name, and may also be read from an
object with that name as its only key and a null value.
-/

namespace Extrinsics

/-- Where a document tree comes from. -/
inductive Origin where
  /-- A JSON value in memory. -/
  | value
  /-- A JSON text. -/
  | text
  /-- A configuration document. -/
  | config
deriving DecidableEq

/-- Why a value cannot be read: its document does not fit the type, or the text is no
document. -/
inductive ReadError where
  | mismatch (m : Mismatch)
  | defect (d : Defect)
deriving DecidableEq

mutual

/-- How the values of a type are written in a document. -/
inductive Shape : Type → Type 1 where
  | text : Shape String
  | flag : Shape Bool
  | word (width : Nat) : Shape (BitVec width)
  | json : Shape Json
  | optional {α : Type} (s : Shape α) : Shape (Option α)
  | list {α : Type} (s : Shape α) : Shape (List α)
  | table {α : Type} (s : Shape α) : Shape (Table α)
  | choice {α : Type} (values : List α) (name : α → String) : Shape α
  | record {α ρ σ : Type} (name : String) (fields : Fields ρ σ) (make : ρ → α)
    (split : α → ρ) : Shape α

/-- The fields of a record, as a product that ends with a unit, and the product of places
that their values take while the record is read. A field may have a default for reading,
and it is not written where `hidden` holds of its value. -/
inductive Fields : Type → Type → Type 1 where
  | nil : Fields Unit Unit
  | field {α ρ σ : Type} (key : String) (default : Option α) (hidden : α → Bool)
    (s : Shape α) (rest : Fields ρ σ) : Fields (α × ρ) (Option α × σ)

end

namespace Fields

/-- A field that must be present. -/
def required {α ρ σ : Type} (key : String) (s : Shape α) (rest : Fields ρ σ) :
    Fields (α × ρ) (Option α × σ) :=
  field key none (fun _ => false) s rest

/-- A field with a default. -/
def defaulted {α ρ σ : Type} (key : String) (default : α) (s : Shape α)
    (rest : Fields ρ σ) : Fields (α × ρ) (Option α × σ) :=
  field key (some default) (fun _ => false) s rest

/-- An optional field, written as null where it has no value. -/
def optional {α ρ σ : Type} (key : String) (s : Shape α) (rest : Fields ρ σ) :
    Fields (Option α × ρ) (Option (Option α) × σ) :=
  field key (some none) (fun _ => false) (.optional s) rest

/-- An optional field, left out where it has no value. -/
def omitted {α ρ σ : Type} (key : String) (s : Shape α) (rest : Fields ρ σ) :
    Fields (Option α × ρ) (Option (Option α) × σ) :=
  field key (some none) Option.isNone (.optional s) rest

/-- The number of fields. -/
def count : {ρ σ : Type} → Fields ρ σ → Nat
  | _, _, nil => 0
  | _, _, field _ _ _ _ rest => count rest + 1

/-- No value read yet. -/
def blank : {ρ σ : Type} → Fields ρ σ → σ
  | _, _, nil => ()
  | _, _, field _ _ _ _ rest => (none, blank rest)

/-- The record of the values read, with defaults for those that are missing. The first
field without either is an error. -/
def complete : {ρ σ : Type} → Fields ρ σ → σ → Except ReadError ρ
  | _, _, nil, _ => .ok ()
  | _, _, field key default _ _ rest, (value, values) =>
    match value.or default with
    | none => .error (.mismatch (.missingField key))
    | some v => do
      let r ← complete rest values
      return (v, r)

end Fields

/-! ### Writing -/

mutual

/-- The JSON value a value is written as. -/
def Shape.encode : {α : Type} → Shape α → α → Json
  | _, .text, s => .text s
  | _, .flag, b => .flag b
  | _, .word _, n => .ofNat n.toNat
  | _, .json, j => j
  | _, .optional s, v =>
    match v with
    | none => .null
    | some v => s.encode v
  | _, .list s, l => .array (l.map s.encode)
  | _, .table s, t => .ofTable (t.map s.encode)
  | _, .choice _ name, v => .text (name v)
  | _, .record _ fields _ split, v => .ofMembers (fields.encode (split v))

/-- The members a record is written with. -/
def Fields.encode : {ρ σ : Type} → Fields ρ σ → ρ → List (String × Json)
  | _, _, .nil, _ => []
  | _, _, .field key _ hidden s rest, (v, r) =>
    if hidden v then rest.encode r else (key, s.encode v) :: rest.encode r

end

/-! ### Reading -/

namespace ReadError

/-- A defect of the text as a reading error. -/
def lift {α : Type} : Except Defect α → Except ReadError α
  | .ok v => .ok v
  | .error d => .error (.defect d)

/-- The refusal of a tree that has not the expected form. -/
def wrongType {α : Type} (t : Tree) (expected : Expected) : Except ReadError α :=
  match t.found with
  | .ok found => .error (.mismatch (.wrongType found expected))
  | .error d => .error (.defect d)

/-- The check that an ending is a closing bracket. -/
def close (c : Close) : Except ReadError Unit := lift (Tree.checkClose Fault.read c)

end ReadError

/-- The value with a name among the values of a choice. -/
def readName {α : Type} (values : List α) (name : α → String) (s : String) :
    Except ReadError α :=
  match values.find? fun v => name v == s with
  | some v => .ok v
  | none => .error (.mismatch (.unknownVariant s (values.map name)))

/-- The value of a choice read from an object in memory, which must have one member. -/
def readSoleMember {α : Type} (values : List α) (name : α → String)
    (members : List (Option String × Tree)) : Except ReadError α :=
  match members with
  | [(some k, t)] => do
    let v ← readName values name k
    match t with
    | .null => .ok v
    | t => ReadError.wrongType t .null
  | _ => .error (.mismatch (.wrongValue .object .soleMember))

/-- The value of a choice read from an object in a text. After the first member only the
closing bracket may follow. -/
def readFirstMember {α : Type} (values : List α) (name : α → String)
    (members : List (Option String × Tree)) (close : Close) : Except ReadError α :=
  match members with
  | (none, _) :: _ => .error (.defect .malformed)
  | (some k, t) :: more => do
    let v ← readName values name k
    match t with
    | .null =>
      match more, close with
      | [], .closed => .ok v
      | [], .halted false f => .error (.defect f.read)
      | _, _ => .error (.defect .malformed)
    | t => ReadError.wrongType t .null
  | [] =>
    match close with
    | .halted _ f => .error (.defect f.read)
    | .closed => .error (.defect .malformed)

/-- The value of a choice read from a tree. -/
def readChoice {α : Type} (origin : Origin) (values : List α) (name : α → String) :
    Tree → Except ReadError α
  | .text s => readName values name s
  | .object members close =>
    match origin with
    | .text => readFirstMember values name members close
    | _ => readSoleMember values name members
  | .flawed _ => .error (.defect .malformed)
  | .broken f => .error (.defect f.choose)
  | t =>
    match origin with
    | .text => .error (.defect .malformed)
    | _ => ReadError.wrongType t .choice

/-- What becomes of the items after the last field of a record that is written as a list of
`length` items. -/
def checkSurplus (origin : Origin) (length : Nat) (rest : List Tree) (c : Close) :
    Except ReadError Unit :=
  match rest with
  | [] => ReadError.close c
  | _ :: _ =>
    match origin with
    | .value => .error (.mismatch (.wrongLength length .fewerItems))
    | .text => .error (.defect .malformed)
    | .config => .ok ()

/-- The values of a list, each read in turn. -/
def readItems {α : Type} (read : Tree → Except ReadError α) :
    List Tree → Except ReadError (List α)
  | [] => .ok []
  | t :: l => do
    let v ← read t
    return v :: (← readItems read l)

/-- The entries of a table, each read in turn. -/
def readEntries {α : Type} (read : Tree → Except ReadError α) :
    List (Option String × Tree) → Table α → Except ReadError (Table α)
  | [], t => .ok t
  | (none, _) :: _, _ => .error (.defect .malformed)
  | (some k, v) :: l, t => do
    let v ← read v
    readEntries read l (t.insert k v)

/-- The members of a record, each put into its place by `put`. -/
def readMembers {σ : Type} (put : String → Tree → σ → Except ReadError σ) :
    List (Option String × Tree) → σ → Except ReadError σ
  | [], st => .ok st
  | (none, _) :: _, _ => .error (.defect .malformed)
  | (some k, t) :: l, st => do
    let st ← put k t st
    readMembers put l st

mutual

/-- The value a tree stands for. -/
def Shape.decode : {α : Type} → Shape α → Origin → Tree → Except ReadError α
  | _, .text, _, t =>
    match t with
    | .text s => .ok s
    | t => ReadError.wrongType t .text
  | _, .flag, _, t =>
    match t with
    | .flag b => .ok b
    | t => ReadError.wrongType t .flag
  | _, .word width, _, t =>
    match t with
    | .whole i =>
      if 0 ≤ i && i.toNat < 2 ^ width then .ok (BitVec.ofNat width i.toNat)
      else .error (.mismatch (.wrongValue (.whole i) (.word width)))
    | t => ReadError.wrongType t (.word width)
  | _, .json, _, t => ReadError.lift t.toJson
  | _, .optional s, origin, t =>
    match t with
    | .null => .ok none
    | t => do
      let v ← s.decode origin t
      return some v
  | _, .list s, origin, t =>
    match t with
    | .list items c => do
      let l ← readItems (s.decode origin) items
      ReadError.close c
      return l
    | t => ReadError.wrongType t .list
  | _, .table s, origin, t =>
    match t with
    | .object members c => do
      let table ← readEntries (s.decode origin) members .empty
      ReadError.close c
      return table
    | t => ReadError.wrongType t .object
  | _, .choice values name, origin, t => readChoice origin values name t
  | _, .record name fields make _, origin, t =>
    match t with
    | .object members c => do
      let values ← readMembers (fields.put origin) members fields.blank
      ReadError.close c
      let r ← fields.complete values
      return make r
    | .list items c => do
      let (r, rest) ← fields.decodeItems origin (.recordOf name fields.count) 0 items c
      checkSurplus origin items.length rest c
      return make r
    | t => ReadError.wrongType t (.record name)

/-- The values read so far, with the value of one more member in its place. -/
def Fields.put : {ρ σ : Type} → Fields ρ σ → Origin → String → Tree → σ →
    Except ReadError σ
  | _, _, .nil, _, _, t, values => do
    ReadError.lift t.skip
    return values
  | _, _, .field key _ _ s rest, origin, k, t, (value, values) =>
    if k = key then
      match value with
      | some _ => .error (.mismatch (.duplicateField key))
      | none => do
        let v ← s.decode origin t
        return (some v, values)
    else do
      let values ← rest.put origin k t values
      return (value, values)

/-- The record read from a list of fields in order, and the items left over. Fields without
an item take their default; the first that has none tells its position. -/
def Fields.decodeItems : {ρ σ : Type} → Fields ρ σ → Origin → Expected → Nat →
    List Tree → Close → Except ReadError (ρ × List Tree)
  | _, _, .nil, _, _, _, items, _ => .ok ((), items)
  | _, _, .field _ default _ s rest, origin, expected, position, items, c =>
    match items with
    | t :: items => do
      let v ← s.decode origin t
      let (r, left) ← rest.decodeItems origin expected (position + 1) items c
      return ((v, r), left)
    | [] => do
      ReadError.close c
      match default with
      | some v =>
        let (r, left) ← rest.decodeItems origin expected (position + 1) [] c
        return ((v, r), left)
      | none => .error (.mismatch (.wrongLength position expected))

end

/-- The value a JSON value stands for. -/
def Shape.ofJson {α : Type} (s : Shape α) (j : Json) : Except ReadError α :=
  s.decode .value (Tree.ofJson j)

end Extrinsics
