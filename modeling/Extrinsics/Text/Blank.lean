/-!
# Blank characters

The characters with the Unicode property White_Space, and texts without blanks at their
ends.
-/

namespace Extrinsics.Text

/-- Whether a character has the property White_Space. -/
def isBlank (c : Char) : Bool :=
  let n := c.toNat
  (9 ≤ n && n ≤ 13) || n = 32 || n = 0x85 || n = 0xA0 || n = 0x1680
    || (0x2000 ≤ n && n ≤ 0x200A) || n = 0x2028 || n = 0x2029 || n = 0x202F
    || n = 0x205F || n = 0x3000

/-- The characters up to the last one that is not blank. -/
def trimRight : List Char → List Char
  | [] => []
  | c :: rest =>
    match trimRight rest with
    | [] => if isBlank c then [] else [c]
    | d :: rest' => c :: d :: rest'

/-- A text without the blanks at its two ends. -/
def trim (s : List Char) : List Char := trimRight (s.dropWhile isBlank)

end Extrinsics.Text
