import Extrinsics.Dispatch.Error

/-!
# SCALE form of dispatch errors

A dispatch error is written as the number of its variant and its payload. A string is
written as its length and its UTF-8 octets. Lengths have a compact form in one, two or four
octets, or in four octets after a marker; only the shortest one is read.
-/

namespace Extrinsics.Scale

/-- Why octets are not the form of a value. -/
inductive DecodeError where
  /-- The octets end within a number. -/
  | endOfInput
  /-- The octets end within a string. -/
  | endOfText
  /-- A length is not in its shortest form, or too great. -/
  | lengthRange
  /-- The octets of a string are not UTF-8. -/
  | invalidText
  /-- No variant of the type has the number. -/
  | unknownVariant (type : String)
  /-- The octets end before the number of a variant. -/
  | missingVariant (type : String)
  /-- A part of the value has no valid form. -/
  | part (place : String) (cause : DecodeError)
deriving DecidableEq

namespace DecodeError

/-- A name between back quotes, in the words that introduce it. -/
private def couldNot (name : String) : String := "Could not decode `" ++ name ++ "`"

/-- A line at a depth of nesting. Below the top level it ends with a line break. -/
private def line (depth : Nat) (s : String) : String :=
  String.ofList (List.replicate depth '\t') ++ s ++ (if depth = 0 then "" else "\n")

/-- A line that introduces its cause on the lines after it. -/
private def opening (depth : Nat) (s : String) : String :=
  String.ofList (List.replicate depth '\t') ++ s ++ ":\n"

/-- The message of an error at a depth of nesting. -/
def messageAt (depth : Nat) : DecodeError → String
  | endOfInput => line depth "Not enough data to fill buffer"
  | endOfText => line depth "Not enough data to decode vector"
  | lengthRange => line depth "out of range decoding Compact<u32>"
  | invalidText => line depth "Invalid utf8 sequence"
  | unknownVariant type => line depth (couldNot type ++ ", variant doesn't exist")
  | missingVariant type =>
    opening depth (couldNot type ++ ", failed to read variant byte")
      ++ line (depth + 1) "Not enough data to fill buffer"
  | part place cause => opening depth (couldNot place) ++ messageAt (depth + 1) cause

/-- The message of an error. -/
def message (e : DecodeError) : String := messageAt 0 e

end DecodeError

/-- A reader of octets: a value and the octets after it. -/
abbrev Reader (α : Type) := List UInt8 → Except DecodeError (α × List UInt8)

/-- A reader of a part of a value, whose errors tell the place of the part. -/
def Reader.at {α : Type} (place : String) (read : Reader α) : Reader α := fun octets =>
  match read octets with
  | .ok r => .ok r
  | .error e => .error (.part place e)

/-! ### Numbers -/

/-- The low octets of a number, the lowest first. -/
def littleEndian : Nat → Nat → List UInt8
  | 0, _ => []
  | count + 1, n => UInt8.ofNat (n % 256) :: littleEndian count (n / 256)

/-- A number of some octets, the lowest first. -/
def readLittleEndian : Nat → Reader Nat
  | 0, octets => .ok (0, octets)
  | _ + 1, [] => .error .endOfInput
  | count + 1, b :: octets => do
    let (n, rest) ← readLittleEndian count octets
    return (b.toNat + 256 * n, rest)

/-- The compact form of a length. The two low bits of the first octet tell which form it
is. -/
def encodeLength (n : Nat) : List UInt8 :=
  if n < 1 <<< 6 then littleEndian 1 (4 * n)
  else if n < 1 <<< 14 then littleEndian 2 (4 * n + 1)
  else if n < 1 <<< 30 then littleEndian 4 (4 * n + 2)
  else 3 :: littleEndian 4 n

/-- The value of a compact form that must be at least `least`. -/
def atLeast (least : Nat) (n : Nat) (rest : List UInt8) :
    Except DecodeError (Nat × List UInt8) :=
  if least ≤ n then .ok (n, rest) else .error .lengthRange

/-- A length in its compact form. -/
def readLength : Reader Nat
  | [] => .error .endOfInput
  | b :: rest =>
    if b.toNat % 4 = 0 then .ok (b.toNat / 4, rest)
    else if b.toNat % 4 = 1 then do
      let (n, rest) ← readLittleEndian 2 (b :: rest)
      atLeast (1 <<< 6) (n / 4) rest
    else if b.toNat % 4 = 2 then do
      let (n, rest) ← readLittleEndian 4 (b :: rest)
      atLeast (1 <<< 14) (n / 4) rest
    else if b.toNat = 3 then do
      let (n, rest) ← readLittleEndian 4 rest
      atLeast (1 <<< 30) n rest
    else .error .lengthRange

/-! ### Strings -/

/-- The UTF-8 octets of a string. -/
def utf8 (s : String) : List UInt8 := s.toUTF8.data.toList

/-- The string with the given UTF-8 octets. -/
def ofUtf8? (octets : List UInt8) : Option String := String.fromUTF8? ⟨octets.toArray⟩

/-- The form of a string. -/
def encodeText (s : String) : List UInt8 := encodeLength (utf8 s).length ++ utf8 s

/-- A string. -/
def readText : Reader String := fun octets => do
  let (length, octets) ← readLength octets
  if octets.length < length then .error .endOfText
  else
    match ofUtf8? (octets.take length) with
    | some s => .ok (s, octets.drop length)
    | none => .error .invalidText

/-! ### Variants -/

/-- The number of a variant of a type. -/
def readVariant (type : String) : Reader UInt8
  | [] => .error (.missingVariant type)
  | b :: rest => .ok (b, rest)

/-- A value of a type of names, written as its position in the list of them. -/
def readChoice {α : Type} (type : String) (values : List α) : Reader α := fun octets => do
  let (n, rest) ← readVariant type octets
  match values[n.toNat]? with
  | some v => .ok (v, rest)
  | none => .error (.unknownVariant type)

/-! ### Dispatch errors -/

/-- One octet. -/
def readOctet : Reader UInt8
  | [] => .error .endOfInput
  | b :: rest => .ok (b, rest)

/-- Four octets. -/
def readFour : Reader (Vector UInt8 4)
  | a :: b :: c :: d :: rest => .ok (#v[a, b, c, d], rest)
  | _ => .error .endOfInput

/-- A module error. -/
def readModule : Reader ModuleError := fun octets => do
  let (index, octets) ← Reader.at "ModuleError::index" readOctet octets
  let (error, octets) ← Reader.at "ModuleError::error" readFour octets
  return (⟨index, error⟩, octets)

/-- The form of a dispatch error. -/
def encode : DispatchError → List UInt8
  | .other reason => 0 :: encodeText reason
  | .cannotLookup => [1]
  | .badOrigin => [2]
  | .module e => 3 :: e.index :: e.octets
  | .consumerRemaining => [4]
  | .noProviders => [5]
  | .tooManyConsumers => [6]
  | .token e => [7, UInt8.ofNat (TokenError.all.idxOf e)]
  | .arithmetic e => [8, UInt8.ofNat (ArithmeticError.all.idxOf e)]
  | .exhausted => [9]
  | .corruption => [10]
  | .unavailable => [11]

/-- A dispatch error, and the octets after it. -/
def read : Reader DispatchError := fun octets => do
  let (variant, rest) ← readVariant "DispatchError" octets
  match variant.toNat with
  | 0 => do
    let (reason, rest) ← Reader.at "DispatchError::Other.0" readText rest
    return (.other reason, rest)
  | 1 => return (.cannotLookup, rest)
  | 2 => return (.badOrigin, rest)
  | 3 => do
    let (e, rest) ← Reader.at "DispatchError::Module.0" readModule rest
    return (.module e, rest)
  | 4 => return (.consumerRemaining, rest)
  | 5 => return (.noProviders, rest)
  | 6 => return (.tooManyConsumers, rest)
  | 7 => do
    let (e, rest) ← Reader.at "DispatchError::Token.0"
      (readChoice "TokenError" TokenError.all) rest
    return (.token e, rest)
  | 8 => do
    let (e, rest) ← Reader.at "DispatchError::Arithmetic.0"
      (readChoice "ArithmeticError" ArithmeticError.all) rest
    return (.arithmetic e, rest)
  | 9 => return (.exhausted, rest)
  | 10 => return (.corruption, rest)
  | 11 => return (.unavailable, rest)
  | _ => .error (.unknownVariant "DispatchError")

/-- The dispatch error that octets begin with. -/
def decode (octets : List UInt8) : Except DecodeError DispatchError :=
  (read octets).map Prod.fst

end Extrinsics.Scale
