import Extrinsics.Number.Shortest
import Extrinsics.Table

/-!
# JSON values

Whole numbers are kept apart from binary64 numbers: a number is whole when it is written
without a fraction and an exponent and fits 64 bits. An object lists its members in
ascending order of their keys.
-/

namespace Extrinsics

/-- A JSON value. -/
inductive Json where
  | null
  | flag (b : Bool)
  | whole (i : Int)
  | real (x : Binary64)
  | text (s : String)
  | array (items : List Json)
  | object (members : List (String × Json))

namespace Json

instance : Inhabited Json := ⟨null⟩

/-- The object with the given members in any order. Of members with one key the last
stays. -/
def ofMembers (members : List (String × Json)) : Json :=
  object (Table.ofList members).entries

/-- The object with the entries of a table. -/
def ofTable (t : Table Json) : Json := object t.entries

/-- A natural number as a value. -/
def ofNat (n : Nat) : Json := whole n

/-- The value, or `null` for none. -/
def ofOption : Option Json → Json
  | some j => j
  | none => null

/-- The value of a member. -/
def member? (j : Json) (k : String) : Option Json :=
  match j with
  | object members => (members.find? fun m => m.1 == k).map Prod.snd
  | _ => none

/-! ### Equality -/

mutual

/-- Whether two values are the same, with binary64 numbers compared numerically. -/
def same : Json → Json → Bool
  | null, null => true
  | flag a, flag b => a == b
  | whole i, whole j => i == j
  | real x, real y => x.same y
  | text s, text t => s == t
  | array l, array m => sameItems l m
  | object l, object m => sameMembers l m
  | _, _ => false

/-- Whether two lists of values are the same. -/
def sameItems : List Json → List Json → Bool
  | [], [] => true
  | a :: l, b :: m => same a b && sameItems l m
  | _, _ => false

/-- Whether two lists of members are the same. -/
def sameMembers : List (String × Json) → List (String × Json) → Bool
  | [], [] => true
  | (k, a) :: l, (k', b) :: m => k == k' && same a b && sameMembers l m
  | _, _ => false

end

/-! ### Text -/

/-- One character inside a written string. -/
def escape (c : Char) : List Char :=
  if c = '"' then ['\\', '"']
  else if c = '\\' then ['\\', '\\']
  else if c = '\n' then ['\\', 'n']
  else if c = '\r' then ['\\', 'r']
  else if c = '\t' then ['\\', 't']
  else if c = '\x08' then ['\\', 'b']
  else if c = '\x0c' then ['\\', 'f']
  else if c.toNat < 0x20 then
    '\\' :: 'u' :: '0' :: '0' :: Nat.digitChar (c.toNat / 16) :: [Nat.digitChar (c.toNat % 16)]
  else [c]

/-- A written string. -/
def quote (s : String) : List Char := '"' :: s.toList.flatMap escape ++ ['"']

mutual

/-- A value written without blanks. -/
def write : Json → List Char
  | null => "null".toList
  | flag true => "true".toList
  | flag false => "false".toList
  | whole i => (toString i).toList
  | real x => x.dataText.toList
  | text s => quote s
  | array [] => ['[', ']']
  | array (a :: l) => '[' :: write a ++ writeItems l ++ [']']
  | object [] => ['\x7b', '\x7d']
  | object ((k, a) :: l) => '\x7b' :: quote k ++ ':' :: write a ++ writeMembers l ++ ['\x7d']

/-- Values after the first of an array, each after a comma. -/
def writeItems : List Json → List Char
  | [] => []
  | a :: l => ',' :: write a ++ writeItems l

/-- Members after the first of an object, each after a comma. -/
def writeMembers : List (String × Json) → List Char
  | [] => []
  | (k, a) :: l => ',' :: quote k ++ ':' :: write a ++ writeMembers l

end

/-- The text of a value, without blanks. -/
def render (j : Json) : String := String.ofList j.write

end Json

end Extrinsics
