/-!
# Binary64 numbers

A binary64 number is a signed whole multiple of a power of two whose significand has at
most 53 bits. Every operation computes the exact rational result and rounds it once, to
the nearest number, ties to the even significand.
-/

namespace Extrinsics

/-- A number of the 64-bit binary interchange format. In `finite`, the value is
`significand * 2 ^ exponent`, and the significand has exactly 53 bits unless the exponent
is the least one. -/
inductive Binary64 where
  | finite (negative : Bool) (significand : Nat) (exponent : Int)
  | infinite (negative : Bool)
  | nan
deriving DecidableEq

namespace Binary64

/-! ### Rounding -/

/-- The least exponent of a finite number. -/
def leastExponent : Int := -1074

/-- The greatest exponent of a finite number. -/
def greatestExponent : Int := 971

/-- The whole number nearest to `n / d`, the even one of two equally near. -/
def nearestEven (n d : Nat) : Nat :=
  let q := n / d
  let r := n % d
  if 2 * r < d then q
  else if d < 2 * r then q + 1
  else if q % 2 = 0 then q
  else q + 1

/-- The exponent of the leading bit of `n / d`, for positive `n` and `d`. -/
def leadingBit (n d : Nat) : Int :=
  let e : Int := (n.log2 : Int) - (d.log2 : Int)
  if d <<< e.toNat ≤ n <<< (-e).toNat then e else e - 1

/-- The number nearest to `n / d`, with the given sign. -/
def ofRatio (negative : Bool) (n d : Nat) : Binary64 :=
  if n = 0 then finite negative 0 leastExponent
  else
    let q := max (leadingBit n d - 52) leastExponent
    let m := nearestEven (n <<< (-q).toNat) (d <<< q.toNat)
    let m' := if m = 1 <<< 53 then 1 <<< 52 else m
    let q' := if m = 1 <<< 53 then q + 1 else q
    if greatestExponent < q' then infinite negative else finite negative m' q'

/-- The number nearest to a natural number. -/
def ofNat (n : Nat) : Binary64 := ofRatio false n 1

/-- The number nearest to `digits * 10 ^ exponent`, with the given sign. -/
def ofDecimal (negative : Bool) (digits : Nat) (exponent : Int) : Binary64 :=
  if digits = 0 then finite negative 0 leastExponent
  else
    -- a power of two `2 ^ k` has more than `3 * k / 10` and at most `k / 3 + 1` digits
    let atLeast := exponent + (digits.log2 : Int) * 3 / 10
    let below := exponent + ((digits.log2 : Int) + 1) / 3 + 1
    if 309 < atLeast then infinite negative
    else if below < -330 then finite negative 0 leastExponent
    else ofRatio negative (digits * Nat.pow 10 exponent.toNat) (Nat.pow 10 (-exponent).toNat)

/-! ### Arithmetic -/

/-- The positive zero. -/
def zero : Binary64 := finite false 0 leastExponent

/-- The sign of a number. -/
def negative : Binary64 → Bool
  | finite s _ _ => s
  | infinite s => s
  | nan => false

/-- The number with its sign turned. -/
def negate : Binary64 → Binary64
  | finite s m q => finite (!s) m q
  | infinite s => infinite (!s)
  | nan => nan

/-- Whether the number is a zero of either sign. -/
def isZero : Binary64 → Bool
  | finite _ m _ => m == 0
  | _ => false

/-- The numerator of a finite magnitude over `2 ^ 1074`. -/
private def scaled (m : Nat) (q : Int) : Nat := m <<< (q - leastExponent).toNat

/-- The product of two numbers. -/
def mul : Binary64 → Binary64 → Binary64
  | finite s m q, finite t n r =>
    ofRatio (s != t) ((m * n) <<< (q + r).toNat) (1 <<< (-(q + r)).toNat)
  | nan, _ => nan
  | _, nan => nan
  | x, y => if x.isZero || y.isZero then nan else infinite (x.negative != y.negative)

/-- The quotient of two numbers. -/
def div : Binary64 → Binary64 → Binary64
  | finite s m q, finite t n r =>
    if n = 0 then if m = 0 then nan else infinite (s != t)
    else ofRatio (s != t) (m <<< (q - r).toNat) (n <<< (r - q).toNat)
  | infinite s, finite t _ _ => infinite (s != t)
  | finite s _ _, infinite t => finite (s != t) 0 leastExponent
  | _, _ => nan

/-- The value of a finite number over `2 ^ 1074`, with its sign. -/
private def signedScaled (s : Bool) (m : Nat) (q : Int) : Int :=
  if s then -(scaled m q : Int) else scaled m q

/-- The sum of two numbers. Numbers that cancel give the positive zero. -/
def add : Binary64 → Binary64 → Binary64
  | finite s m q, finite t n r =>
    let sum := signedScaled s m q + signedScaled t n r
    ofRatio (if sum = 0 then s && t else decide (sum < 0)) sum.natAbs (1 <<< 1074)
  | infinite s, infinite t => if s = t then infinite s else nan
  | infinite s, finite _ _ _ => infinite s
  | finite _ _ _, infinite t => infinite t
  | _, _ => nan

/-- Whether one number is at most another. Nothing compares with `nan`, and the two zeros
are equal. -/
def le : Binary64 → Binary64 → Bool
  | finite s m q, finite t n r => decide (signedScaled s m q ≤ signedScaled t n r)
  | infinite s, infinite t => s || !t
  | infinite s, finite _ _ _ => s
  | finite _ _ _, infinite t => !t
  | _, _ => false

/-- Numeric equality. -/
def same (x y : Binary64) : Bool := x.le y && y.le x

end Binary64

end Extrinsics
