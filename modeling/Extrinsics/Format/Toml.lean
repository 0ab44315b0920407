import Extrinsics.Format.Shape

/-!
# TOML documents

A document is built up table by table. Each table remembers how it came to be, because that
decides who may add to it: a table with a header of its own is closed to dotted keys, one
that only stands above another header may still get its own header, and one made by dotted
keys may be extended by dotted keys only.
-/

namespace Extrinsics

/-- How a table came to be. -/
inductive TableOrigin where
  /-- By a header of its own. -/
  | header
  /-- As the parent of a table with a header. -/
  | implied
  /-- By a dotted key. -/
  | dotted
deriving DecidableEq

/-- A TOML value. -/
inductive Toml where
  | text (s : String)
  | whole (i : Int)
  | real (x : Binary64)
  | flag (b : Bool)
  /-- A date, a time or both. -/
  | moment (s : String)
  | array (items : List Toml)
  /-- A table written in place. It is extensible when a dotted key made it. -/
  | inline (extensible : Bool) (entries : List (String × Toml))
  | table (origin : TableOrigin) (entries : List (String × Toml))
  /-- A list of tables, each with a header. -/
  | tables (elements : List (List (String × Toml)))

namespace Toml

/-- The entries of a table, in the order of the document. -/
abbrev Entries := List (String × Toml)

/-- The value at a key. -/
def lookup (k : String) (es : Entries) : Option Toml :=
  (es.find? fun e => e.1 == k).map Prod.snd

/-- The entries with the value at a key replaced, or added at the end. -/
def assign (k : String) (v : Toml) (es : Entries) : Entries :=
  if (lookup k es).isSome then es.map fun e => if e.1 = k then (k, v) else e
  else es ++ [(k, v)]

/-- The entries without a key. -/
def discard (k : String) (es : Entries) : Entries := es.filter fun e => e.1 != k

/-! ### Tables with headers -/

/-- Change the table at a path. Tables on the way that do not exist are made, by a dotted
key or as parents of a header. A dotted key may not pass through a table with a header, and
nothing passes through a value. -/
def change (byDots : Bool) (f : TableOrigin → Entries → Option Entries) :
    List String → TableOrigin → Entries → Option Entries
  | [], origin, es => f origin es
  | k :: path, _, es =>
    match lookup k es with
    | none => do
      let origin := if byDots then TableOrigin.dotted else .implied
      let sub ← change byDots f path origin []
      return assign k (table origin sub) es
    | some (table origin sub) =>
      if byDots && origin = .header then none
      else do
        let sub ← change byDots f path origin sub
        return assign k (table origin sub) es
    | some (tables elements) =>
      match elements.getLast? with
      | none => none
      | some last => do
        let last ← change byDots f path .header last
        return assign k (tables (elements.dropLast ++ [last])) es
    | some _ => none

/-- The entries with a new key. -/
def addNew (k : String) (v : Toml) (es : Entries) : Option Entries :=
  if (lookup k es).isSome then none else some (es ++ [(k, v)])

/-- The entries of a table with one more line `path.k = v`. Below a dotted path the value
must land in a table made by dotted keys. -/
def addLine (path : List String) (k : String) (v : Toml) (es : Entries) : Option Entries :=
  change true
    (fun origin es =>
      if !path.isEmpty && origin ≠ .dotted then none else addNew k v es)
    path .header es

/-! ### Tables in place -/

/-- Change the inline table at a dotted path. Only tables made by dotted keys can be
extended. -/
def changeInline (f : Entries → Option Entries) : List String → Entries → Option Entries
  | [], es => f es
  | k :: path, es =>
    match lookup k es with
    | none => do
      let sub ← changeInline f path []
      return assign k (inline true sub) es
    | some (inline true sub) => do
      let sub ← changeInline f path sub
      return assign k (inline true sub) es
    | some _ => none

/-- The entries of an inline table with one more pair `path.k = v`. -/
def addPair (path : List String) (k : String) (v : Toml) (es : Entries) : Option Entries :=
  changeInline (addNew k v) path es

/-! ### Documents -/

/-- A document under construction: the tables that are complete, and the one whose lines
are being read, which is kept apart until the next header. -/
structure Draft where
  root : Entries
  path : List String
  isElement : Bool
  current : Entries

namespace Draft

/-- The draft before the first line. -/
def start : Draft := ⟨[], [], false, []⟩

/-- Put the current table into its place. -/
def finish (d : Draft) : Option Entries :=
  match d.path.getLast? with
  | none => some d.current
  | some k =>
    change false
      (fun _ es =>
        match lookup k es, d.isElement with
        | none, true => some (assign k (tables [d.current]) es)
        | some (tables elements), true => some (assign k (tables (elements ++ [d.current])) es)
        | none, false => some (assign k (table .header d.current) es)
        | _, _ => none)
      d.path.dropLast .header d.root

/-- Begin a table with a header. It may have come to be as a parent before, and then it
keeps what it has and moves behind its siblings. -/
def openTable (d : Draft) (path : List String) : Option Draft := do
  let root ← d.finish
  let k ← path.getLast?
  let root ← change false (fun _ es => some es) path.dropLast .header root
  let parent := parentAt path.dropLast root
  match lookup k parent with
  | none => return ⟨root, path, false, []⟩
  | some (table .implied es) => do
    let root ← change false (fun _ es => some (discard k es)) path.dropLast .header root
    return ⟨root, path, false, es⟩
  | some _ => none
where
  /-- The table at a path, through the last element of each list of tables. -/
  parentAt : List String → Entries → Entries
    | [], es => es
    | k :: path, es =>
      match lookup k es with
      | some (table _ sub) => parentAt path sub
      | some (tables elements) => parentAt path (elements.getLast?.getD [])
      | _ => []

/-- Begin an element of a list of tables. -/
def openElement (d : Draft) (path : List String) : Option Draft := do
  let root ← d.finish
  let k ← path.getLast?
  let root ← change false
    (fun _ es =>
      match lookup k es with
      | none => some (assign k (tables []) es)
      | some (tables _) => some es
      | some _ => none)
    path.dropLast .header root
  return ⟨root, path, true, []⟩

/-- Add a line to the current table. -/
def addLine (d : Draft) (path : List String) (k : String) (v : Toml) : Option Draft := do
  let current ← Toml.addLine path k v d.current
  return { d with current }

end Draft

/-! ### Document trees -/

mutual

/-- The document tree of a value. A date or time has the form of an object. -/
def toTree : Toml → Tree
  | text s => .text s
  | whole i => .whole i
  | real x => .real x
  | flag b => .flag b
  | moment s => .object [(some "date-time", .text s)] .closed
  | array items => .list (toTrees items) .closed
  | inline _ es => .object (toMembers es) .closed
  | table _ es => .object (toMembers es) .closed
  | tables elements => .list (toObjects elements) .closed

/-- The document trees of a list of values. -/
def toTrees : List Toml → List Tree
  | [] => []
  | v :: l => toTree v :: toTrees l

/-- The members of a table. -/
def toMembers : List (String × Toml) → List (Option String × Tree)
  | [] => []
  | (k, v) :: l => (some k, toTree v) :: toMembers l

/-- The objects of a list of tables. -/
def toObjects : List (List (String × Toml)) → List Tree
  | [] => []
  | es :: l => .object (toMembers es) .closed :: toObjects l

end

end Toml

end Extrinsics
