import Extrinsics.Dispatch.Error
import Extrinsics.Failure
import Extrinsics.Telemetry.Metric

/-!
# Registries of pallet errors

A registry knows the pallets of a chain and their errors, as the metadata of the chain
declare them. With it the error of a pallet gets a text for people; errors it does not know
keep their generic text.
-/

namespace Extrinsics

/-- What the metadata of a chain declare of an error of a pallet. -/
structure MetaError where
  pallet : String
  name : String
  docs : List String
deriving DecidableEq

namespace MetaError

/-- The text of an error: its full name, and its documentation in one line. -/
def text (e : MetaError) : String :=
  e.pallet ++ "." ++ e.name ++ ": " ++ String.intercalate " " e.docs

end MetaError

/-- The names of pallets by their index, and the names and documentation of errors by the
index of their pallet and their own number. The latest entries come first. -/
structure Registry where
  pallets : List (UInt8 × String)
  errors : List ((UInt8 × UInt8) × (String × List String))
deriving DecidableEq

namespace Registry

/-- The registry that knows no error. -/
def empty : Registry := ⟨[], []⟩

/-- The registry with one more error. An entry for a known pallet renames the pallet, and
one for a known error replaces it. -/
def addError (r : Registry) (index : UInt8) (pallet : String) (variant : UInt8)
    (name : String) (docs : List String) : Registry where
  pallets := (index, pallet) :: r.pallets
  errors := ((index, variant), (name, docs)) :: r.errors

/-- What the registry knows of a module error. -/
def find (r : Registry) (e : ModuleError) : Except RegistryError MetaError :=
  match r.pallets.lookup e.index with
  | none => .error (.unknownModule e.index)
  | some pallet =>
    match r.errors.lookup (e.index, e.variant) with
    | none => .error (.unknownError e.index e.variant)
    | some (name, docs) => .ok ⟨pallet, name, docs⟩

/-- A registry with some errors of the pallet `balances`. -/
def balances : Registry :=
  ((empty.addError 10 "balances" 0 "VestingBalance"
      ["Vesting balance too high to send value."]).addError
    10 "balances" 1 "LiquidityRestrictions"
      ["Account liquidity restrictions prevent withdrawal."]).addError
    10 "balances" 2 "InsufficientBalance" ["Balance too low to send value."]

/-- The message of a dispatch error, and the error of the registry if a module error is not
known. -/
def describe (r : Registry) (e : DispatchError) : String × Option RegistryError :=
  match e.module? with
  | none => (e.text, none)
  | some m =>
    match r.find m with
    | .ok known => (known.text, none)
    | .error unknown => (e.text, some unknown)

/-- The metric events of describing a dispatch error. -/
def describeMetrics {δ : Type} (r : Registry) (e : DispatchError) : List (Metric δ) :=
  (r.describe e).2.toList.map fun unknown => .error "registry" unknown.code

end Registry

/-- A client connected to a chain. -/
structure Client where
  chain : String
  registry : Registry
deriving DecidableEq

end Extrinsics
