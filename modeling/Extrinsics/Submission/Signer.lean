import Extrinsics.Failure
import Extrinsics.Text.Hex

/-!
# Signers

A signer that signs by repeating what it is asked to sign, or refuses every request as if
the user had cancelled it. A signature has 64 octets.
-/

namespace Extrinsics

/-- A signer, and how many payloads it has signed. -/
structure Signer where
  refuses : Bool
  signed : Nat
deriving DecidableEq

namespace Signer

/-- The number of octets of a signature. -/
def signatureSize : Nat := 64

/-- The signature of a payload: the address and the payload, cut or filled up with zeros. -/
def signature (address : String) (payload : List UInt8) : List UInt8 :=
  ((address.toUTF8.data.toList ++ payload) ++ List.replicate signatureSize 0).take
    signatureSize

/-- A request for a signature. -/
def sign (s : Signer) (address : String) (payload : List UInt8) :
    Signer × Except ExtensionError (List UInt8) :=
  if s.refuses then (s, .error (.rejected "Cancelled"))
  else ({ s with signed := s.signed + 1 }, .ok (signature address payload))

end Signer

end Extrinsics
