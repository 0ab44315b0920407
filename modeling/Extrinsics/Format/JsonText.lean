import Extrinsics.Format.Shape
import Extrinsics.Text.Hex

/-!
# JSON texts

The reading of a JSON text as a document tree. The tree ends at the first place where the
text stops being JSON. Values that break a limit but not the grammar, namely numbers
outside the range of binary64, strings with half a surrogate pair and values nested 128
levels deep, stand in the tree as flawed.

Numbers are read as follows. The digits form a whole number as long as it fits 64 bits; a
digit of the whole part that does not fit only raises the exponent, and from the first
digit of the fraction that does not fit the rest is dropped. The digits are rounded to
binary64, and the result is multiplied or divided by a power of ten, which is rounded too.
-/

namespace Extrinsics.JsonText

/-! ### Numbers -/

/-- The greatest number of 64 bits. -/
def greatestWord : Nat := 18446744073709551615

/-- Digits read so far: their number, and the power of ten that scales it. -/
structure Digits where
  significand : Nat
  exponent : Int

/-- The value of a decimal digit. -/
def digit? (c : Char) : Option Nat := if c.isDigit then some (c.toNat - 48) else none

/-- Digits of a whole part, from the first one on. -/
def wholeDigits : List Char → Digits → Digits × List Char
  | [], d => (d, [])
  | c :: rest, d =>
    match digit? c with
    | none => (d, c :: rest)
    | some n =>
      let next := d.significand * 10 + n
      if d.exponent = 0 && next ≤ greatestWord then wholeDigits rest ⟨next, 0⟩
      else wholeDigits rest ⟨d.significand, d.exponent + 1⟩

/-- Digits of a fraction. With `full` set, further digits are dropped. -/
def fractionDigits (full : Bool) : List Char → Digits → Digits × List Char
  | [], d => (d, [])
  | c :: rest, d =>
    match digit? c with
    | none => (d, c :: rest)
    | some n =>
      let next := d.significand * 10 + n
      if !full && next ≤ greatestWord then fractionDigits full rest ⟨next, d.exponent - 1⟩
      else fractionDigits true rest d

/-- Digits of an exponent, as a number. -/
def exponentDigits : List Char → Nat → Nat × List Char
  | [], n => (n, [])
  | c :: rest, n =>
    match digit? c with
    | none => (n, c :: rest)
    | some k => exponentDigits rest (n * 10 + k)

/-- A number scaled by a power of ten, in steps that each round; none when it is out of
range. The first argument bounds the steps for exponents below `-308`. -/
def scale : Nat → Binary64 → Int → Option Binary64
  | 0, x, _ => some x
  | steps + 1, x, e =>
    if 308 < e then if x.isZero then some x else none
    else if 0 ≤ e then
      match x.mul (.ofDecimal false 1 e) with
      | .infinite _ => none
      | y => some y
    else if -308 ≤ e then some (x.div (.ofDecimal false 1 (-e)))
    else if x.isZero then some x
    else scale steps (x.div (.ofDecimal false 1 308)) (e + 308)

/-- The tree of a number that is not whole. -/
def realTree (negative : Bool) (d : Digits) : Tree :=
  match scale 4 (.ofNat d.significand) d.exponent with
  | some x => .real (if negative then x.negate else x)
  | none => .flawed .null

/-- The tree of a number without fraction and exponent. -/
def wholeTree (negative : Bool) (d : Digits) : Tree :=
  if d.exponent ≠ 0 then realTree negative d
  else if !negative then .whole d.significand
  else if 0 < d.significand && d.significand ≤ 1 <<< 63 then .whole (-d.significand)
  else .real (Binary64.ofNat d.significand).negate

/-- The fault of a number whose next character must be a digit. -/
def numberFault : List Char → Fault
  | [] => .number .cutShort
  | _ => .number .malformed

/-- A tree and the text after it; no text is left after the place of a fault. -/
abbrev Result := Tree × Option (List Char)

/-- The exponent of a number, after its sign. -/
def readExponentDigits (negative : Bool) (d : Digits) (down : Bool) (s : List Char) : Result :=
  match s with
  | c :: _ =>
    match digit? c with
    | none => (.broken (numberFault s), none)
    | some _ =>
      let (n, rest) := exponentDigits s 0
      if 1 <<< 31 ≤ n then
        if d.significand = 0 || down then
          (.real (if negative then Binary64.zero.negate else Binary64.zero), some rest)
        else (.flawed .null, some rest)
      else
        let e : Int := if down then d.exponent - n else d.exponent + n
        (realTree negative ⟨d.significand, e⟩, some rest)
  | [] => (.broken (numberFault s), none)

/-- The exponent of a number, after its letter. -/
def readExponent (negative : Bool) (d : Digits) : List Char → Result
  | '+' :: rest => readExponentDigits negative d false rest
  | '-' :: rest => readExponentDigits negative d true rest
  | rest => readExponentDigits negative d false rest

/-- What follows the digits of a fraction. -/
def readFractionEnd (negative : Bool) (d : Digits) : List Char → Result
  | 'e' :: rest => readExponent negative d rest
  | 'E' :: rest => readExponent negative d rest
  | rest => (realTree negative d, some rest)

/-- What follows the whole part of a number. -/
def readWholeEnd (negative : Bool) (d : Digits) : List Char → Result
  | 'e' :: rest => readExponent negative d rest
  | 'E' :: rest => readExponent negative d rest
  | '.' :: rest =>
    match rest with
    | c :: _ =>
      match digit? c with
      | none => (.broken (numberFault rest), none)
      | some _ =>
        let (d, rest) := fractionDigits false rest d
        readFractionEnd negative d rest
    | [] => (.broken (numberFault rest), none)
  | rest => (wholeTree negative d, some rest)

/-- A number, after its sign. A zero stands alone in its whole part. -/
def readNumber (negative : Bool) (s : List Char) : Result :=
  match s with
  | [] => (.broken (numberFault s), none)
  | c :: rest =>
    match digit? c with
    | none => (.broken (numberFault s), none)
    | some 0 =>
      match rest with
      | d :: _ =>
        if (digit? d).isSome then (.broken (.number .malformed), none)
        else readWholeEnd negative ⟨0, 0⟩ rest
      | [] => readWholeEnd negative ⟨0, 0⟩ rest
    | some _ =>
      let (d, rest) := wholeDigits s ⟨0, 0⟩
      readWholeEnd negative d rest

/-! ### Strings -/

/-- How the reading of a string ends: with the string, with a string that cannot be read,
or at a fault. -/
inductive Scanned where
  | text (s : List Char) (rest : List Char)
  | flawed (rest : List Char)
  | stopped (f : Fault)

/-- One more character in front of what is read. -/
def Scanned.cons (c : Char) : Scanned → Scanned
  | text s rest => text (c :: s) rest
  | r => r

/-- The end of a scan after a flaw: the string cannot be read any more. -/
def Scanned.spoil : Scanned → Scanned
  | text _ rest => flawed rest
  | flawed rest => flawed rest
  | stopped (.text _ skip) => stopped (.text .malformed skip)
  | stopped f => stopped f

/-- A fault inside a string, the same for reading and for passing over. -/
def stop (d : Defect) : Scanned := .stopped (.text d d)

/-- Whether at least four octets of text are left. -/
def fourOctets (s : List Char) : Bool :=
  4 ≤ (String.ofList (s.take 4)).utf8ByteSize

/-- The number of four hexadecimal digits. -/
def hexNumber? (a b c d : Char) : Option Nat := do
  let a ← Hex.value? a
  let b ← Hex.value? b
  let c ← Hex.value? c
  let d ← Hex.value? d
  return ((a * 16 + b) * 16 + c) * 16 + d

/-- The character of a short escape. -/
def shortEscape? (c : Char) : Option Char :=
  if c = '"' || c = '\\' || c = '/' then some c
  else if c = 'b' then some '\x08'
  else if c = 'f' then some '\x0c'
  else if c = 'n' then some '\n'
  else if c = 'r' then some '\r'
  else if c = 't' then some '\t'
  else none

/-- Whether a number is the first half of a surrogate pair. -/
def isHighSurrogate (n : Nat) : Bool := 0xD800 ≤ n && n ≤ 0xDBFF

/-- Whether a number is the second half of a surrogate pair. -/
def isLowSurrogate (n : Nat) : Bool := 0xDC00 ≤ n && n ≤ 0xDFFF

/-- The character of a surrogate pair. -/
def pairChar (high low : Nat) : Char :=
  Char.ofNat ((high - 0xD800) * 0x400 + (low - 0xDC00) + 0x10000)

/-- The string that starts here, after its opening quote. -/
def scan : List Char → Scanned
  | [] => stop .cutShort
  | '"' :: rest => .text [] rest
  | '\\' :: 'u' :: a :: b :: c :: d :: rest =>
    match hexNumber? a b c d with
    | none => stop .malformed
    | some n =>
      if isLowSurrogate n then (scan rest).spoil
      else if isHighSurrogate n then
        match rest with
        | '\\' :: 'u' :: a :: b :: c :: d :: rest' =>
          match hexNumber? a b c d with
          | none => stop .malformed
          | some n' =>
            if isLowSurrogate n' then (scan rest').cons (pairChar n n')
            else (scan rest').spoil
        | '\\' :: 'u' :: rest' =>
          if fourOctets rest' then stop .malformed else stop .cutShort
        | '\\' :: [] => stop .cutShort
        | [] => stop .cutShort
        | '\\' :: e :: rest' =>
          match shortEscape? e with
          | none => stop .malformed
          | some _ => (scan rest').spoil
        | '"' :: rest' => .flawed rest'
        | x :: rest' =>
          if x.toNat < 0x20 then stop .malformed else (scan rest').spoil
      else (scan rest).cons (Char.ofNat n)
  | '\\' :: 'u' :: rest => if fourOctets rest then stop .malformed else stop .cutShort
  | '\\' :: [] => stop .cutShort
  | '\\' :: e :: rest =>
    match shortEscape? e with
    | none => stop .malformed
    | some c => (scan rest).cons c
  | c :: rest => if c.toNat < 0x20 then stop .malformed else (scan rest).cons c

/-! ### Values -/

/-- Whether a character may stand between the parts of a text. -/
def isBlank (c : Char) : Bool := c = ' ' || c = '\n' || c = '\t' || c = '\r'

/-- A text from its first character that is not blank. -/
def skipBlanks (s : List Char) : List Char := s.dropWhile isBlank

/-- A literal word, of which the first letter has been read. -/
def readWord (t : Tree) : List Char → List Char → Result
  | [], rest => (t, some rest)
  | _, [] => (.broken (.word .cutShort), none)
  | w :: word, c :: rest =>
    if c = w then readWord t word rest else (.broken (.word .malformed), none)

/-- The number of levels of nesting that cannot be read any more. -/
def depthLimit : Nat := 128

/-- A value at a level of nesting, flawed if it is too deep. -/
def atDepth (depth : Nat) (t : Tree) : Tree := if depthLimit ≤ depth then .flawed t else t

mutual

/-- The value that starts here. The first argument bounds the calls, the second is the
number of brackets open around the value. -/
def readValue : Nat → Nat → List Char → Result
  | 0, _, _ => (.broken .absent, none)
  | fuel + 1, depth, s =>
    match skipBlanks s with
    | [] => (.broken .absent, none)
    | c :: rest =>
      if c = 'n' then readWord .null "ull".toList rest
      else if c = 't' then readWord (.flag true) "rue".toList rest
      else if c = 'f' then readWord (.flag false) "alse".toList rest
      else if c = '"' then
        match scan rest with
        | .text s rest => (.text (String.ofList s), some rest)
        | .flawed rest => (.flawed .null, some rest)
        | .stopped f => (.broken f, none)
      else if c = '-' then readNumber true rest
      else if c.isDigit then readNumber false (c :: rest)
      else if c = '[' then
        let (items, close, rest) := readItems fuel (depth + 1) true rest
        (atDepth (depth + 1) (.list items close), rest)
      else if c = '\x7b' then
        let (members, close, rest) := readMembers fuel (depth + 1) true rest
        (atDepth (depth + 1) (.object members close), rest)
      else (.broken .stray, none)

/-- The items of a list from here on, `first` when none has been read. -/
def readItems : Nat → Nat → Bool → List Char → List Tree × Close × Option (List Char)
  | 0, _, _, _ => ([], .halted false .absent, none)
  | fuel + 1, depth, first, s =>
    match skipBlanks s with
    | [] => ([], .halted false .absent, none)
    | c :: rest =>
      if c = ']' then ([], .closed, some rest)
      else if first then readItem fuel depth (c :: rest)
      else if c = ',' then
        match skipBlanks rest with
        | ']' :: _ => ([.broken .stray], .closed, none)
        | rest => readItem fuel depth rest
      else ([], .halted false .stray, none)

/-- An item of a list and those after it. -/
def readItem : Nat → Nat → List Char → List Tree × Close × Option (List Char)
  | 0, _, _ => ([], .halted false .absent, none)
  | fuel + 1, depth, s =>
    match readValue fuel depth s with
    | (t, none) => ([t], .closed, none)
    | (t, some rest) =>
      let (items, close, rest) := readItems fuel depth false rest
      (t :: items, close, rest)

/-- The members of an object from here on, `first` when none has been read. -/
def readMembers :
    Nat → Nat → Bool → List Char → List (Option String × Tree) × Close × Option (List Char)
  | 0, _, _, _ => ([], .halted false .absent, none)
  | fuel + 1, depth, first, s =>
    match skipBlanks s with
    | [] => ([], .halted false .absent, none)
    | c :: rest =>
      if c = '\x7d' then ([], .closed, some rest)
      else if first then
        if c = '"' then readMember fuel depth false rest
        else ([], .halted false .stray, none)
      else if c = ',' then
        match skipBlanks rest with
        | '"' :: rest => readMember fuel depth true rest
        | [] => ([], .halted true .absent, none)
        | _ => ([], .halted true .stray, none)
      else ([], .halted false .stray, none)

/-- A member of an object, after the opening quote of its key, and those after it. -/
def readMember :
    Nat → Nat → Bool → List Char → List (Option String × Tree) × Close × Option (List Char)
  | 0, _, _, _ => ([], .halted false .absent, none)
  | fuel + 1, depth, comma, s =>
    match scan s with
    | .stopped f => ([], .halted comma f, none)
    | .text key rest => readMemberValue fuel depth (some (String.ofList key)) rest
    | .flawed rest => readMemberValue fuel depth none rest

/-- The value of a member, after its key, and the members after it. -/
def readMemberValue :
    Nat → Nat → Option String → List Char →
      List (Option String × Tree) × Close × Option (List Char)
  | 0, _, _, _ => ([], .halted false .absent, none)
  | fuel + 1, depth, key, s =>
    match skipBlanks s with
    | ':' :: rest =>
      match readValue fuel depth rest with
      | (t, none) => ([(key, t)], .closed, none)
      | (t, some rest) =>
        let (members, close, rest) := readMembers fuel depth false rest
        ((key, t) :: members, close, rest)
    | [] => ([(key, .broken .absent)], .closed, none)
    | _ => ([(key, .broken .stray)], .closed, none)

end

/-- A text read to its end: its value, and whether more than blanks follows it. -/
structure Document where
  tree : Tree
  trailing : Bool

/-- The document of a text. -/
def document (s : List Char) : Document :=
  match readValue (4 * s.length + 4) 0 s with
  | (t, some rest) => ⟨t, !(skipBlanks rest).isEmpty⟩
  | (t, none) => ⟨t, false⟩

/-- A typed value read from a text. What follows the value is looked at last. -/
def decode {α : Type} (shape : Shape α) (s : List Char) : Except ReadError α :=
  let d := document s
  match shape.decode .text d.tree with
  | .error e => .error e
  | .ok v => if d.trailing then .error (.defect .malformed) else .ok v

/-- The JSON value of a text. -/
def read? (s : String) : Option Json :=
  match decode .json s.toList with
  | .ok j => some j
  | .error _ => none

end Extrinsics.JsonText
