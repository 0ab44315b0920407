import Extrinsics.Account
import Extrinsics.Failure
import Extrinsics.Submission.Signer
import Extrinsics.Table

/-!
# Scripted extensions and endpoints

An extension that answers by a script: whether it grants access, and which accounts it lists
in each address format. Each answer comes after a delay. Endpoints answer by a script too.
-/

namespace Extrinsics

/-- How an extension answers a request for access. -/
inductive Access where
  /-- No extension is installed. -/
  | none
  | installed
  /-- The request itself fails. -/
  | broken (reason : String)
deriving DecidableEq

/-- A scripted extension. -/
structure ScriptedExtension where
  access : Access
  /-- The answers to requests for accounts by their address format. -/
  accounts : List (BitVec 16 × Except String (List ListedAccount))
  /-- The time before each answer, in milliseconds. -/
  delay : Nat
  signer : Signer
  /-- The names of the applications that asked for access. -/
  enabledFor : List String

namespace ScriptedExtension

/-- The extensions that are there to grant access. -/
def installed (e : ScriptedExtension) : List GrantedExtension :=
  match e.access with
  | .installed => [⟨"polkadot-js", "0.44.1"⟩]
  | _ => []

/-- The extension with an answer for an address format, in place of an earlier one. -/
def setAccounts (e : ScriptedExtension) (format : BitVec 16)
    (answer : Except String (List ListedAccount)) : ScriptedExtension :=
  { e with accounts := e.accounts.filter (fun a => a.1 != format) ++ [(format, answer)] }

/-- A request for access. -/
def enable (e : ScriptedExtension) (appName : String) :
    ScriptedExtension × Except ExtensionError (List GrantedExtension) :=
  ({ e with enabledFor := e.enabledFor ++ [appName] },
    match e.access with
    | .broken reason => .error (.rejected reason)
    | _ => .ok e.installed)

/-- A request for the accounts in an address format. -/
def list (e : ScriptedExtension) (format : BitVec 16) :
    Except ExtensionError (List ListedAccount) :=
  if e.installed.isEmpty then .error .notInstalled
  else
    match e.accounts.lookup format with
    | some (.ok l) => .ok l
    | some (.error reason) => .error (.accountLookup format reason)
    | none => .ok []

/-- A request for the signer that holds an address. -/
def signerFor (e : ScriptedExtension) (address : String) : Except ExtensionError Signer :=
  let known := e.accounts.any fun a =>
    match a.2 with
    | .ok l => l.any fun account => account.address == address
    | .error _ => false
  if known then .ok e.signer else .error (.noSigner address)

end ScriptedExtension

/-- How an endpoint answers an attempt to connect. -/
inductive Endpoint where
  /-- It connects after a delay in milliseconds. -/
  | connects (delay : Nat)
  | fails (reason : String)
  /-- It never answers. -/
  | hangs
deriving DecidableEq

/-- How the connector itself ends an attempt, before the endpoint is asked. -/
inductive Refusal where
  | error (e : ConnectionError)
  /-- The attempt breaks off without a result. -/
  | breaksOff
deriving DecidableEq

/-- The scripted endpoints by their addresses. Endpoints without a script connect at
once. -/
structure Connector where
  refusals : Table Refusal
  endpoints : Table Endpoint

end Extrinsics
