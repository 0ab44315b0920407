/-!
# Hexadecimal octets

Octets as pairs of digits in base sixteen, the high digit first. Writing uses lower-case
letters, reading accepts both cases.
-/

namespace Extrinsics.Hex

/-- The lower-case digit of a number below sixteen. -/
def digit (n : Nat) : Char :=
  if n < 10 then Char.ofNat (48 + n) else Char.ofNat (87 + n)

/-- The number a digit stands for. -/
def value? (c : Char) : Option Nat :=
  let n := c.toNat
  if 48 ≤ n && n ≤ 57 then some (n - 48)
  else if 97 ≤ n && n ≤ 102 then some (n - 87)
  else if 65 ≤ n && n ≤ 70 then some (n - 55)
  else none

/-- The two digits of each octet. -/
def encode (octets : List UInt8) : List Char :=
  octets.flatMap fun b => [digit (b.toNat / 16), digit (b.toNat % 16)]

/-- The octets written in a text of digit pairs. -/
def decode? : List Char → Option (List UInt8)
  | [] => some []
  | [_] => none
  | a :: b :: rest =>
    match value? a, value? b, decode? rest with
    | some hi, some lo, some octets => some (UInt8.ofNat (16 * hi + lo) :: octets)
    | _, _, _ => none

/-- A text without the marks `0x` at its beginning. -/
def unmarked : List Char → List Char
  | '0' :: 'x' :: rest => unmarked rest
  | l => l

/-- The octets that a marked text of digit pairs stands for, none if it is no such text. -/
def octets (s : String) : List UInt8 := (decode? (unmarked s.toList)).getD []

/-- The digits of the octets, as a string. -/
def text (octets : List UInt8) : String := String.ofList (encode octets)

end Extrinsics.Hex
