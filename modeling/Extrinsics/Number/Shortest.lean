import Extrinsics.Number.Binary64

/-!
# Shortest decimals

Of the decimals that round to a given binary64 number, the shortest is one with the fewest
digits, and among those the nearest. It lies on the coarsest decimal grid that meets the
interval of reals rounding to the number, and there it is one of the two neighbours of the
number.
-/

namespace Extrinsics

/-- The decimal `digits * 10 ^ exponent`. -/
structure Decimal where
  digits : Nat
  exponent : Int
deriving DecidableEq

namespace Binary64

/-- The interval of reals that round to a number, in quarters of its last place. Its ends
belong to it when the significand is even. -/
structure Rounding where
  low : Nat
  value : Nat
  high : Nat
  closed : Bool

/-- The rounding interval of `m * 2 ^ q`. Below a power of two the numbers lie twice as
dense. -/
def roundingOf (m : Nat) (q : Int) : Rounding where
  low := if m = 1 <<< 52 && leastExponent < q then 4 * m - 1 else 4 * m - 2
  value := 4 * m
  high := 4 * m + 2
  closed := m % 2 = 0

/-- Whether a point, in quarters of the last place, rounds to the number. The point is
`n / d`. -/
def Rounding.contains (I : Rounding) (n d : Nat) : Bool :=
  if I.closed then decide (I.low * d ≤ n) && decide (n ≤ I.high * d)
  else decide (I.low * d < n) && decide (n < I.high * d)

/-- The better of the two neighbours of the number on the grid of multiples of
`10 ^ k`, if any of them rounds to it. -/
def onGrid (I : Rounding) (q : Int) (k : Int) : Option Nat :=
  -- a grid point `c` is `c * up / down` quarters of the last place
  let up := Nat.pow 10 k.toNat <<< (2 - q).toNat
  let down := Nat.pow 10 (-k).toNat <<< (q - 2).toNat
  let c := I.value * down / up
  let below := I.contains (c * up) down
  let above := I.contains ((c + 1) * up) down
  if below && above then
    let toBelow := I.value * down - c * up
    let toAbove := (c + 1) * up - I.value * down
    if toBelow < toAbove then some c
    else if toAbove < toBelow then some (c + 1)
    else if c % 2 = 0 then some c
    else some (c + 1)
  else if below then some c
  else if above then some (c + 1)
  else none

/-- The first grid, from `10 ^ k` downwards, that holds a decimal rounding to the number. -/
def searchGrids (I : Rounding) (q : Int) : Nat → Int → Decimal
  | 0, k => ⟨I.value, k⟩
  | steps + 1, k =>
    match onGrid I q k with
    | some c => ⟨c, k⟩
    | none => searchGrids I q steps (k - 1)

/-- The shortest decimal that rounds to `m * 2 ^ q`. -/
def shortestOf (m : Nat) (q : Int) : Decimal :=
  if m = 0 then ⟨0, 0⟩
  else
    let leading : Int := (m.log2 : Int) + q
    searchGrids (roundingOf m q) q 24 (leading * 1233 / 4096 + 2)

end Binary64

namespace Decimal

/-- The digits in base ten. -/
def digitText (d : Decimal) : List Char := Nat.toDigits 10 d.digits

/-- The exponent of the leading digit. -/
def leading (d : Decimal) : Int := d.exponent + d.digitText.length - 1

/-- A whole part and a fraction, without an exponent. A whole number has no point. -/
def positional (d : Decimal) : List Char :=
  let digits := d.digitText
  if d.digits = 0 then ['0']
  else if 0 ≤ d.exponent then digits ++ List.replicate d.exponent.toNat '0'
  else
    let places := (-d.exponent).toNat
    if places < digits.length then
      digits.take (digits.length - places) ++ '.' :: digits.drop (digits.length - places)
    else '0' :: '.' :: List.replicate (places - digits.length) '0' ++ digits

/-- One digit, a point before the others, and an exponent with its sign. -/
def exponential (d : Decimal) : List Char :=
  let digits := d.digitText
  let e := d.leading
  let fraction := if digits.length ≤ 1 then [] else '.' :: digits.drop 1
  digits.take 1 ++ fraction ++ 'e' :: (if e < 0 then '-' else '+') :: Nat.toDigits 10 e.natAbs

end Decimal

namespace Binary64

/-- A number written without an exponent. -/
def positionalText : Binary64 → String
  | finite s m q =>
    String.ofList ((if s then ['-'] else []) ++ (shortestOf m q).positional)
  | infinite s => if s then "-inf" else "inf"
  | nan => "NaN"

/-- A number written without an exponent, a whole one with `.0`. -/
def pointedText (x : Binary64) : String :=
  let text := x.positionalText
  match x with
  | finite _ _ _ => if text.toList.contains '.' then text else text ++ ".0"
  | _ => text

/-- A number as data formats write it: positional while the leading digit stands between
`10 ^ -5` and `10 ^ 15`, else with an exponent. -/
def dataText (x : Binary64) : String :=
  match x with
  | finite s m q =>
    let d := shortestOf m q
    if m = 0 || (-5 ≤ d.leading && d.leading ≤ 15) then x.pointedText
    else String.ofList ((if s then ['-'] else []) ++ d.exponential)
  | _ => x.positionalText

end Binary64

end Extrinsics
