import Extrinsics.Text.Hex

/-!
# Dispatch errors

The reasons why an extrinsic that was included in a block failed to run, and a generic text
for each. The text of an error with a payload has the form of a JSON object with one key;
the payload stands in it as it is.
-/

namespace Extrinsics

/-- An error of tokens. -/
inductive TokenError where
  | fundsUnavailable
  | onlyProvider
  | belowMinimum
  | cannotCreate
  | unknownAsset
  | frozen
  | unsupported
deriving DecidableEq

namespace TokenError

/-- All errors of tokens, in the order of their numbers. -/
def all : List TokenError :=
  [fundsUnavailable, onlyProvider, belowMinimum, cannotCreate, unknownAsset, frozen,
    unsupported]

/-- The name of an error. -/
def name : TokenError → String
  | fundsUnavailable => "FundsUnavailable"
  | onlyProvider => "OnlyProvider"
  | belowMinimum => "BelowMinimum"
  | cannotCreate => "CannotCreate"
  | unknownAsset => "UnknownAsset"
  | frozen => "Frozen"
  | unsupported => "Unsupported"

end TokenError

/-- An error of arithmetic. -/
inductive ArithmeticError where
  | underflow
  | overflow
  | divisionByZero
deriving DecidableEq

namespace ArithmeticError

/-- All errors of arithmetic, in the order of their numbers. -/
def all : List ArithmeticError := [underflow, overflow, divisionByZero]

/-- The name of an error. -/
def name : ArithmeticError → String
  | underflow => "Underflow"
  | overflow => "Overflow"
  | divisionByZero => "DivisionByZero"

end ArithmeticError

/-- An error of a pallet: the index of the pallet and four octets of its own. -/
structure ModuleError where
  index : UInt8
  error : Vector UInt8 4
deriving DecidableEq

namespace ModuleError

/-- The number of the error among those of its pallet. -/
def variant (e : ModuleError) : UInt8 := e.error[0]

/-- The four octets of the pallet. -/
def octets (e : ModuleError) : List UInt8 := [e.error[0], e.error[1], e.error[2], e.error[3]]

end ModuleError

/-- The reason why an extrinsic failed to run. -/
inductive DispatchError where
  | other (reason : String)
  | cannotLookup
  | badOrigin
  | module (e : ModuleError)
  | consumerRemaining
  | noProviders
  | tooManyConsumers
  | token (e : TokenError)
  | arithmetic (e : ArithmeticError)
  | exhausted
  | corruption
  | unavailable
deriving DecidableEq

namespace DispatchError

/-- The errors without a payload. -/
def plain : List DispatchError :=
  [cannotLookup, badOrigin, consumerRemaining, noProviders, tooManyConsumers, exhausted,
    corruption, unavailable]

/-- The pallet's error, if the error comes from a pallet. -/
def module? : DispatchError → Option ModuleError
  | module e => some e
  | _ => none

/-- A text between braces. -/
private def braced (s : String) : String := "\x7b" ++ s ++ "\x7d"

/-- The generic text of an error. -/
def text : DispatchError → String
  | other reason => braced ("\"other\":\"" ++ reason ++ "\"")
  | module e => braced ("\"module\":" ++ braced ("\"index\":" ++ toString e.index.toNat
      ++ ",\"error\":\"0x" ++ Hex.text e.octets ++ "\""))
  | token e => braced ("\"token\":\"" ++ e.name ++ "\"")
  | arithmetic e => braced ("\"arithmetic\":\"" ++ e.name ++ "\"")
  | cannotLookup => "CannotLookup"
  | badOrigin => "BadOrigin"
  | consumerRemaining => "ConsumerRemaining"
  | noProviders => "NoProviders"
  | tooManyConsumers => "TooManyConsumers"
  | exhausted => "Exhausted"
  | corruption => "Corruption"
  | unavailable => "Unavailable"

end DispatchError

end Extrinsics
