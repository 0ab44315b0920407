import Extrinsics.Format.Json

/-!
# Document trees

A document tree is what a typed value is read from: a JSON value, a JSON text or a
configuration document. The tree of a text keeps the members of an object in their order
and with their repetitions, and it keeps what is wrong with the text at the place where it
was found, so that a reader that walks the tree meets the first problem first.
-/

namespace Extrinsics

/-- How a text fails to be a document: it ends early, or it has a wrong form. -/
inductive Defect where
  | cutShort
  | malformed
deriving DecidableEq

/-- Where in a text the reading of a tree had to stop. -/
inductive Fault where
  /-- The text ends where something is due. -/
  | absent
  /-- A character stands where it may not. -/
  | stray
  /-- A literal word is cut short or misspelt. -/
  | word (d : Defect)
  /-- A number is cut short or has a wrong form. -/
  | number (d : Defect)
  /-- A string does not end. The two defects are those of reading it and of passing it
  over. -/
  | text (read skip : Defect)
deriving DecidableEq

namespace Fault

/-- The defect met by reading the value. -/
def read : Fault → Defect
  | absent => .cutShort
  | stray => .malformed
  | word d => d
  | number d => d
  | text d _ => d

/-- The defect met by passing the value over. A number that is passed over may not end with
the text. -/
def skip : Fault → Defect
  | number _ => .malformed
  | text _ d => d
  | f => f.read

/-- The defect met where a value must begin as a string or an object. -/
def choose : Fault → Defect
  | word _ => .malformed
  | number _ => .malformed
  | f => f.read

end Fault

/-- The form of a value found in a document. -/
inductive Found where
  | null
  | flag (b : Bool)
  | whole (i : Int)
  | real (x : Binary64)
  | text (s : String)
  | list
  | object
deriving DecidableEq

/-- How the entries of a list or an object end. -/
inductive Close where
  /-- With the closing bracket. -/
  | closed
  /-- With a fault in place of a comma, a bracket or a key. A comma may have been read before
  it. -/
  | halted (comma : Bool) (f : Fault)

/-- The fault an ending has for those who read or skip every entry. -/
def Close.fault? : Close → Option Fault
  | .closed => none
  | .halted _ f => some f

/-- A document tree. A member without a key has a key that can be passed over but not
read. -/
inductive Tree where
  | null
  | flag (b : Bool)
  | whole (i : Int)
  | real (x : Binary64)
  | text (s : String)
  | list (items : List Tree) (close : Close)
  | object (members : List (Option String × Tree)) (close : Close)
  /-- A value that can be passed over but not read. -/
  | flawed (inner : Tree)
  /-- The place where the text stops being a document. -/
  | broken (f : Fault)

namespace Tree

instance : Inhabited Tree := ⟨null⟩

/-- The form of a tree, unless the text is at fault there. -/
def found : Tree → Except Defect Found
  | null => .ok .null
  | flag b => .ok (.flag b)
  | whole i => .ok (.whole i)
  | real x => .ok (.real x)
  | text s => .ok (.text s)
  | list _ _ => .ok .list
  | object _ _ => .ok .object
  | flawed _ => .error .malformed
  | broken f => .error f.read

/-! ### Trees of JSON values -/

mutual

/-- The tree of a JSON value. -/
def ofJson : Json → Tree
  | .null => null
  | .flag b => flag b
  | .whole i => whole i
  | .real x => real x
  | .text s => text s
  | .array l => list (ofItems l) .closed
  | .object l => object (ofMembers l) .closed

/-- The trees of a list of values. -/
def ofItems : List Json → List Tree
  | [] => []
  | j :: l => ofJson j :: ofItems l

/-- The trees of a list of members. -/
def ofMembers : List (String × Json) → List (Option String × Tree)
  | [] => []
  | (k, j) :: l => (some k, ofJson j) :: ofMembers l

end

/-! ### Passing over and reading whole -/

/-- The check that an ending is a closing bracket. -/
def checkClose (verdict : Fault → Defect) (close : Close) : Except Defect Unit :=
  match close.fault? with
  | none => .ok ()
  | some f => .error (verdict f)

mutual

/-- Pass over a value. -/
def skip : Tree → Except Defect Unit
  | list items close => do
    skipItems items
    checkClose Fault.skip close
  | object members close => do
    skipMembers members
    checkClose Fault.skip close
  | flawed inner => skip inner
  | broken f => .error f.skip
  | _ => .ok ()

/-- Pass over the values of a list. -/
def skipItems : List Tree → Except Defect Unit
  | [] => .ok ()
  | t :: l => do
    skip t
    skipItems l

/-- Pass over the members of an object. -/
def skipMembers : List (Option String × Tree) → Except Defect Unit
  | [] => .ok ()
  | (_, t) :: l => do
    skip t
    skipMembers l

end

mutual

/-- The JSON value a tree stands for. Of members with one key the last stays. -/
def toJson : Tree → Except Defect Json
  | null => .ok .null
  | flag b => .ok (.flag b)
  | whole i => .ok (.whole i)
  | real x => .ok (.real x)
  | text s => .ok (.text s)
  | list items close => do
    let items ← toItems items
    checkClose Fault.read close
    return .array items
  | object members close => do
    let members ← toMembers members
    checkClose Fault.read close
    return Json.ofMembers members
  | flawed _ => .error .malformed
  | broken f => .error f.read

/-- The JSON values of a list. -/
def toItems : List Tree → Except Defect (List Json)
  | [] => .ok []
  | t :: l => do
    let j ← toJson t
    return j :: (← toItems l)

/-- The members of an object with their JSON values. -/
def toMembers : List (Option String × Tree) → Except Defect (List (String × Json))
  | [] => .ok []
  | (none, _) :: _ => .error .malformed
  | (some k, t) :: l => do
    let j ← toJson t
    return (k, j) :: (← toMembers l)

end

end Tree

end Extrinsics
