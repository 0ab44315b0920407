import Extrinsics.Account
import Extrinsics.Config

/-!
# The state of the provider

For every chain of the network table the provider keeps a connection, whether or not the
chain is supported. Beside them it keeps the status of the signing extension and the choice
of an account.
-/

namespace Extrinsics

/-- The connection to one chain, and the accounts known on it. -/
structure Connection where
  chain : String
  /-- The client, once it is connected. -/
  client : Option Client
  status : ApiStatus
  accounts : List Account
  addressFormat : BitVec 16
deriving DecidableEq

namespace Connection

/-- The connection before the first attempt. -/
def initial (chain : String) (n : Network) : Connection :=
  ⟨chain, none, .initializing, [], n.addressFormat⟩

/-- Whether the chain can be used. -/
def isConnected (c : Connection) : Bool := c.status = .connected && c.client.isSome

end Connection

/-- The two kinds of chains. -/
inductive ChainKind where
  | parachain
  | relaychain
deriving DecidableEq

/-- Everything that the provider publishes. -/
structure ProviderState where
  parachains : Table Connection
  relaychains : Table Connection
  extension : ExtensionStatus
  /-- The position of the chosen account among those of a chain. -/
  selected : Option Nat
deriving DecidableEq

namespace ProviderState

/-- The state before anything has happened. -/
def initial (t : NetworkTable) : ProviderState where
  parachains := t.parachains.mapWithKey Connection.initial
  relaychains := t.relaychains.mapWithKey Connection.initial
  extension := .initializing
  selected := none

/-- The connections to the chains of a kind. -/
def connections (s : ProviderState) : ChainKind → Table Connection
  | .parachain => s.parachains
  | .relaychain => s.relaychains

/-- The state with the connection to a chain changed. -/
def modify (s : ProviderState) (kind : ChainKind) (chain : String)
    (f : Connection → Connection) : ProviderState :=
  match kind with
  | .parachain => { s with parachains := s.parachains.modify chain f }
  | .relaychain => { s with relaychains := s.relaychains.modify chain f }

/-- The state after an attempt to connect to a chain, with a client if it succeeded. -/
def settleAttempt (s : ProviderState) (kind : ChainKind) (chain : String)
    (client : Option Client) (status : ApiStatus) : ProviderState :=
  s.modify kind chain fun c => { c with client, status }

/-- The state with the accounts of a parachain replaced. -/
def setAccounts (s : ProviderState) (chain : String) (accounts : List Account) :
    ProviderState :=
  s.modify .parachain chain fun c => { c with accounts }

/-- The state without extension, accounts and choice. -/
def deactivate (s : ProviderState) : ProviderState :=
  { s with
    parachains := s.parachains.map fun c => { c with accounts := [] }
    extension := .initializing
    selected := none }

/-- The chosen account on a parachain. -/
def selectedAccount (s : ProviderState) (chain : String) : Option Account := do
  let i ← s.selected
  let c ← s.parachains.get? chain
  c.accounts[i]?

end ProviderState

end Extrinsics
