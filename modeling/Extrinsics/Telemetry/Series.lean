/-!
# Labelled series

A family of series holds a number for each combination of label values that has occurred. A
series is found by the digest of its label values, which are taken one after the other with
no mark between them. Combinations of one digest share a series, and the labels of a series
are those it was begun with.
-/

namespace Extrinsics

/-- A number and the values of its labels. -/
structure Series where
  labels : List String
  value : Nat
deriving DecidableEq

namespace Series

/-- A digest with one more octet, by the rule FNV-1a. -/
def mix (digest : BitVec 64) (octet : UInt8) : BitVec 64 :=
  (digest ^^^ BitVec.ofNat 64 octet.toNat) * 0x100000001b3#64

/-- The digest of a list of octets. -/
def digestOctets (octets : List UInt8) : BitVec 64 :=
  octets.foldl mix 0xcbf29ce484222325#64

/-- The digest of some label values. -/
def digest (labels : List String) : BitVec 64 :=
  digestOctets (labels.flatMap fun l => l.toUTF8.data.toList)

/-- Whether a series is the one for some label values. -/
def answersTo (s : Series) (labels : List String) : Bool := digest s.labels = digest labels

end Series

/-- The series of one collector, in the order of their labels. -/
structure Family where
  series : List Series
deriving DecidableEq

namespace Family

/-- The family before anything has occurred. -/
def empty : Family := ⟨[]⟩

/-- A list of series with one more, in the order of the labels. -/
def insertSeries (s : Series) : List Series → List Series
  | [] => [s]
  | t :: rest => if s.labels < t.labels then s :: t :: rest else t :: insertSeries s rest

/-- The series for some label values. -/
def find? (f : Family) (labels : List String) : Option Series :=
  f.series.find? fun s => s.answersTo labels

/-- The family with the number for some label values changed, which is zero at first. -/
def update (f : Family) (labels : List String) (change : Nat → Nat) : Family :=
  match f.find? labels with
  | none => ⟨insertSeries ⟨labels, change 0⟩ f.series⟩
  | some _ =>
    ⟨f.series.map fun s =>
      if s.answersTo labels then { s with value := change s.value } else s⟩

/-- The family with the number for some label values one greater. -/
def increment (f : Family) (labels : List String) : Family := f.update labels (· + 1)

/-- The family with the number for some label values set. -/
def set (f : Family) (labels : List String) (value : Nat) : Family :=
  f.update labels fun _ => value

end Family

end Extrinsics
