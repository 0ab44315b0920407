import Extrinsics.Text.Alphanumeric
import Extrinsics.Text.Blank
import Extrinsics.Text.Hex

/-!
# Value patterns

The regular expressions that a log filter may give for the value of a field. What they match
does not matter, because a directive with a value enables no event outside a span; what
counts is whether a text is a pattern.

A pattern stands for a set of texts, so that nothing in it may match a part of a character.
Classes by a Unicode property, letters of either case and boundaries of words are understood
for ASCII alone, that is, where the flag `u` is off. There is no counted repetition, since
the braces belong to the filter.
-/

namespace Extrinsics.Pattern

/-! ### Flags -/

/-- The flags that decide what may be written. -/
structure Flags where
  /-- Letters stand for either case. -/
  ignoreCase : Bool
  /-- Classes are of all characters, not of ASCII alone. -/
  unicode : Bool
  /-- Blanks and comments may stand between the parts. -/
  spaced : Bool
deriving DecidableEq

namespace Flags

/-- The flags at the beginning of a pattern. -/
def standard : Flags := ⟨false, true, false⟩

/-- The flags after the letters of a group, which set flags up to a hyphen and clear them
after it. -/
def change (f : Flags) (on : Bool) : List Char → Flags
  | [] => f
  | c :: letters =>
    if c = '-' then change f false letters
    else if c = 'i' then change { f with ignoreCase := on } on letters
    else if c = 'u' then change { f with unicode := on } on letters
    else if c = 'x' then change { f with spaced := on } on letters
    else change f on letters

end Flags

/-- A text from its first character that is neither blank nor in a comment. A comment goes
from a number sign to the end of its line. -/
def skipComments : Bool → List Char → List Char
  | _, [] => []
  | true, c :: s => skipComments (c ≠ '\n') s
  | false, c :: s =>
    if Text.isBlank c then skipComments false s
    else if c = '#' then skipComments true s
    else c :: s

/-- A text from its next part on. -/
def Flags.skip (f : Flags) (s : List Char) : List Char :=
  if f.spaced then skipComments false s else s

/-! ### Atoms -/

/-- The smallest parts of a pattern. -/
inductive Atom where
  /-- A character, which may be given by the number of an octet. -/
  | literal (c : Char) (octet : Bool)
  /-- The digits, blanks or letters of words, or all other characters. -/
  | kind (negated : Bool)
  /-- A place in the text, which may depend on the words beside it. -/
  | place (words : Bool)
deriving DecidableEq

/-- Whether an atom may stand outside of classes. -/
def Flags.admits (f : Flags) : Atom → Bool
  | .literal c octet => if f.unicode then !f.ignoreCase else !octet || c.toNat < 0x80
  | .kind negated => !f.unicode && !negated
  | .place words => !(words && f.unicode)

/-- Whether an atom may stand in a class. -/
def Flags.admitsMember (f : Flags) : Atom → Bool
  | .literal c _ => if f.unicode then !f.ignoreCase else c.toNat < 0x80
  | .kind negated => !f.unicode && !negated
  | .place _ => false

/-- A number of so many hexadecimal digits. -/
def readHex (f : Flags) : Nat → Nat → List Char → Option (Nat × List Char)
  | 0, n, s => some (n, s)
  | digits + 1, n, s =>
    match f.skip s with
    | [] => none
    | c :: s => do
      let v ← Hex.value? c
      readHex f digits (16 * n + v) s

/-- A character given by a number of so many hexadecimal digits. -/
def readNumbered (f : Flags) (digits : Nat) (s : List Char) : Option (Atom × List Char) := do
  let (n, s) ← readHex f digits 0 s
  if n.isValidChar then some (.literal (Char.ofNat n) (digits = 2), s) else none

/-- The control characters that have a letter. -/
def controls : List (Char × Char) :=
  [('a', '\x07'), ('f', '\x0c'), ('t', '\t'), ('n', '\n'), ('r', '\r'), ('v', '\x0b')]

/-- The atom after a backslash. -/
def readEscape (f : Flags) : List Char → Option (Atom × List Char)
  | [] => none
  | c :: s =>
    if c = 'x' then readNumbered f 2 s
    else if c = 'u' then readNumbered f 4 s
    else if c = 'U' then readNumbered f 8 s
    else if c = 'd' || c = 's' || c = 'w' then some (.kind false, s)
    else if c = 'D' || c = 'S' || c = 'W' then some (.kind true, s)
    else if c = 'A' || c = 'z' then some (.place false, s)
    else if c = 'b' && s.head? = some '\x7b' then none
    else if c = 'b' || c = 'B' || c = '<' || c = '>' then some (.place true, s)
    else
      match controls.find? fun p => p.1 = c with
      | some p => some (.literal p.2 false, s)
      | none => if c.toNat < 0x80 && !c.isAlphanum then some (.literal c false, s) else none

/-- The number of levels that parts of some depths make together: one part adds none. -/
def depthOf : List Nat → Nat
  | [] => 0
  | [d] => d
  | l => l.foldl max 0 + 1

/-! ### Classes -/

/-- Where in a class the reading is. Hyphens that a class begins with stand for themselves,
and so does a closing bracket that it begins with. -/
inductive Stage where
  | opened
  | hyphens
  | inside
deriving DecidableEq

/-- A class while it is read: the depths of its members since the last operator, and the
depth of what stands before that. -/
structure Bracket where
  stage : Stage
  members : List Nat
  left : Option Nat
deriving DecidableEq

namespace Bracket

/-- A class of which nothing has been read. -/
def start : Bracket := ⟨.opened, [], none⟩

/-- The class with one more member. -/
def push (b : Bracket) (depth : Nat) : Bracket :=
  { b with stage := .inside, members := depth :: b.members }

/-- The depth of what has been read. -/
def depth (b : Bracket) : Nat :=
  match b.left with
  | none => depthOf b.members
  | some d => max d (depthOf b.members) + 1

/-- The class after an operator. -/
def operate (b : Bracket) : Bracket := ⟨.inside, [], some b.depth⟩

end Bracket

/-- A member of a class that is no class itself. -/
def readMember (f : Flags) : List Char → Option (Atom × List Char)
  | [] => none
  | '\\' :: s => readEscape f s
  | c :: s => some (.literal c false, s)

/-- Whether a hyphen before a text makes no range. In a spaced pattern the number sign of a
comment is passed over, and the comment is not. -/
def standsAlone (f : Flags) (s : List Char) : Bool :=
  let next :=
    if f.spaced then
      match s.dropWhile Text.isBlank with
      | '#' :: s => (s.dropWhile Text.isBlank).head?
      | s => s.head?
    else s.head?
  next = some ']' || next = some '-'

/-- Whether two atoms are the ends of a range. -/
def isRange : Atom → Atom → Bool
  | .literal a _, .literal b _ => a ≤ b
  | _, _ => false

/-- The text after a member of a class, or after a range. -/
def passMember (f : Flags) (s : List Char) : Option (List Char) := do
  let (a, s) ← readMember f s
  let single (s : List Char) : Option (List Char) := if f.admitsMember a then some s else none
  match f.skip s with
  | [] => none
  | '-' :: s =>
    if standsAlone f s then single ('-' :: s)
    else do
      let (b, s) ← readMember f (f.skip s)
      if isRange a b && f.admitsMember a && f.admitsMember b then some s else none
  | s => single s

/-- The names of classes of ASCII characters. -/
def classNames : List String :=
  ["alnum", "alpha", "ascii", "blank", "cntrl", "digit", "graph", "lower", "print", "punct",
    "space", "upper", "word", "xdigit"]

/-- A named class, after its opening bracket: whether it is negated, and the text after it. -/
def readNamed? : List Char → Option (Bool × List Char)
  | ':' :: s =>
    let negated := s.head? = some '^'
    let s := if negated then s.drop 1 else s
    let name := String.ofList (s.takeWhile (· ≠ ':'))
    match s.dropWhile (· ≠ ':') with
    | ':' :: ']' :: s => if classNames.contains name then some (negated, s) else none
    | _ => none
  | _ => none

/-- Whether a named class may stand in a class. -/
def Flags.admitsNamed (f : Flags) (negated : Bool) : Bool :=
  if f.unicode then !f.ignoreCase else !negated

/-- The text after the opening bracket of a class and the sign that negates it. -/
def openClass (f : Flags) (s : List Char) : Option (List Char) :=
  match f.skip s with
  | '^' :: s => if f.unicode then some s else none
  | s => some s

/-- The depth of a class that is read from here on, inside of others, and the text after it.
The first argument bounds the members and brackets. -/
def readClass (f : Flags) :
    Nat → Bracket → List Bracket → List Char → Option (Nat × List Char)
  | 0, _, _, _ => none
  | bound + 1, b, outer, s =>
    let sign := f.admitsMember (.literal '-' false)
    match f.skip s with
    | [] => none
    | '-' :: s =>
      if b.stage ≠ .inside then
        if sign then readClass f bound { b.push 0 with stage := .hyphens } outer s else none
      else if s.head? = some '-' then readClass f bound b.operate outer (s.drop 1)
      else do
        let s ← passMember f ('-' :: s)
        readClass f bound (b.push 0) outer s
    | ']' :: s =>
      if b.stage = .opened then
        if sign then readClass f bound (b.push 0) outer s else none
      else
        match outer with
        | [] => some (b.depth + 1, s)
        | o :: outer => readClass f bound (o.push (b.depth + 1)) outer s
    | '[' :: s =>
      match readNamed? s with
      | some (negated, s) =>
        if f.admitsNamed negated then readClass f bound (b.push 0) outer s else none
      | none => do
        let s ← openClass f s
        readClass f bound .start (b :: outer) s
    | '&' :: '&' :: s => readClass f bound b.operate outer s
    | '~' :: '~' :: s => readClass f bound b.operate outer s
    | s => do
      let s ← passMember f s
      readClass f bound (b.push 0) outer s

/-! ### Groups -/

/-- A part of a branch. Only the settings of flags cannot be repeated. -/
structure Item where
  depth : Nat
  repeatable : Bool
deriving DecidableEq

/-- A group while it is read: its flags, the items of its last branch, the last one first,
and the depths of the branches before. -/
structure Group where
  flags : Flags
  items : List Item
  branches : List Nat
deriving DecidableEq

namespace Group

/-- A group of which nothing has been read. -/
def start (f : Flags) : Group := ⟨f, [], []⟩

/-- The group with one more item, which can be repeated. -/
def push (g : Group) (depth : Nat) : Group := { g with items := ⟨depth, true⟩ :: g.items }

/-- The group with another branch. -/
def branch (g : Group) : Group :=
  { g with items := [], branches := depthOf (g.items.map Item.depth) :: g.branches }

/-- The group with its last item repeated, if there is one that can be. -/
def repeatLast? (g : Group) : Option Group :=
  match g.items with
  | [] => none
  | i :: items =>
    if i.repeatable then some { g with items := ⟨i.depth + 1, true⟩ :: items } else none

/-- The group after its flags have been set anew. -/
def setFlags (g : Group) (f : Flags) : Group :=
  { g with flags := f, items := ⟨0, false⟩ :: g.items }

/-- The depth of what has been read. -/
def depth (g : Group) : Nat := depthOf g.branch.branches

end Group

/-- A pattern while it is read: the innermost group, those around it, and the names given to
groups. -/
structure Reader where
  group : Group
  outer : List Group
  names : List (List Char)
deriving DecidableEq

/-- Whether a text may be the name of a group. -/
def isName : List Char → Bool
  | [] => false
  | c :: s =>
    (c = '_' || Text.isAlphabetic c)
      && s.all fun c => c = '_' || c = '.' || c = '[' || c = ']' || Text.isAlphanumeric c

/-- The letters of flags, the last one first, with what ends them and the text after it. No
letter stands twice, and a hyphen not at the end. -/
def readLetters : List Char → List Char → Option (List Char × Char × List Char)
  | _, [] => none
  | read, c :: s =>
    if c = ':' || c = ')' then if read.head? = some '-' then none else some (read, c, s)
    else if read.contains c || !"imsUuRx-".toList.contains c then none
    else readLetters (c :: read) s

namespace Reader

/-- The reader at the beginning of a pattern. -/
def start : Reader := ⟨.start .standard, [], []⟩

/-- The reader in a new group. -/
def enter (r : Reader) (f : Flags) : Reader :=
  { r with group := .start f, outer := r.group :: r.outer }

/-- The reader in a new group with a name. -/
def enterNamed (r : Reader) (s : List Char) : Option (Reader × List Char) :=
  let name := s.takeWhile (· ≠ '>')
  match s.dropWhile (· ≠ '>') with
  | [] => none
  | _ :: s =>
    if isName name && !r.names.contains name then
      some ({ r.enter r.group.flags with names := name :: r.names }, s)
    else none

/-- The reader after an opening bracket. -/
def openGroup (r : Reader) (s : List Char) : Option (Reader × List Char) :=
  match r.group.flags.skip s with
  | '?' :: '<' :: '=' :: _ => none
  | '?' :: '<' :: '!' :: _ => none
  | '?' :: '<' :: s => r.enterNamed s
  | '?' :: 'P' :: '<' :: s => r.enterNamed s
  | '?' :: s => do
    let (letters, last, s) ← readLetters [] s
    let flags := r.group.flags.change true letters.reverse
    if last = ':' then some (r.enter flags, s)
    else if letters.isEmpty then none
    else some ({ r with group := r.group.setFlags flags }, s)
  | s => some (r.enter r.group.flags, s)

/-- The reader after a closing bracket. -/
def closeGroup (r : Reader) : Option Reader :=
  match r.outer with
  | [] => none
  | g :: outer => some { r with group := g.push (r.group.depth + 1), outer }

/-- The reader after one more atom. -/
def pushAtom (r : Reader) (a : Atom) : Option Reader :=
  if r.group.flags.admits a then some { r with group := r.group.push 0 } else none

/-- The reader after the part that begins with a character. -/
def step (r : Reader) (c : Char) (s : List Char) : Option (Reader × List Char) :=
  if c = '(' then r.openGroup s
  else if c = ')' then r.closeGroup.map (·, s)
  else if c = '|' then some ({ r with group := r.group.branch }, s)
  else if c = '[' then do
    let s ← openClass r.group.flags s
    let (depth, s) ← readClass r.group.flags (s.length + 1) .start [] s
    return ({ r with group := r.group.push depth }, s)
  else if c = '?' || c = '*' || c = '+' then do
    let group ← r.group.repeatLast?
    return ({ r with group }, if s.head? = some '?' then s.drop 1 else s)
  else if c = '\x7b' then none
  else if c = '\\' then do
    let (a, s) ← readEscape r.group.flags s
    return (← r.pushAtom a, s)
  else if c = '.' then
    if r.group.flags.unicode then some ({ r with group := r.group.push 0 }, s) else none
  else if c = '^' || c = '$' then (r.pushAtom (.place false)).map (·, s)
  else (r.pushAtom (.literal c false)).map (·, s)

/-- The reader at the end of a text, if every part of it can be read. The first argument
bounds the parts. -/
def run : Nat → Reader → List Char → Option Reader
  | 0, _, _ => none
  | bound + 1, r, s =>
    match r.group.flags.skip s with
    | [] => some r
    | c :: s => do
      let (r, s) ← r.step c s
      run bound r s

end Reader

/-- The greatest depth of a pattern. -/
def depthLimit : Nat := 250

/-- Whether a text is a pattern. -/
def isPattern (s : List Char) : Bool :=
  match Reader.run (s.length + 1) .start s with
  | none => false
  | some r => r.outer.isEmpty && r.group.depth ≤ depthLimit

/-! ### Values -/

/-- Whether a text is the exponent of a number, or empty. -/
def isExponent : List Char → Bool
  | [] => true
  | c :: s =>
    let digits := match s with
      | '+' :: s => s
      | '-' :: s => s
      | s => s
    (c = 'e' || c = 'E') && !digits.isEmpty && digits.all Char.isDigit

/-- Whether a text is a decimal number without a sign. A digit must stand beside the
point. -/
def isDecimal (s : List Char) : Bool :=
  let whole := s.takeWhile Char.isDigit
  match s.dropWhile Char.isDigit with
  | '.' :: s =>
    !(whole.isEmpty && (s.takeWhile Char.isDigit).isEmpty)
      && isExponent (s.dropWhile Char.isDigit)
  | s => !whole.isEmpty && isExponent s

/-- Whether a text is a number, which may be infinite or none. -/
def isNumber (s : List Char) : Bool :=
  let magnitude := match s with
    | '+' :: s => s
    | '-' :: s => s
    | s => s
  ["inf", "infinity", "nan"].contains (String.ofList (magnitude.map Char.toLower))
    || isDecimal magnitude

/-- Whether a text may be given for the value of a field. -/
def isValue (s : List Char) : Bool := isNumber s || isPattern s

end Extrinsics.Pattern
