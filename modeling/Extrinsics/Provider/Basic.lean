import Extrinsics.Provider.State

/-!
# The provider

The provider publishes its state to its observers and counts what it does. Mounting starts
an attempt to connect to each supported chain; activation asks the signing extension for
accounts.
-/

namespace Extrinsics

/-- A provider: its configuration, its state with the number of times it was published, and
everything that has been counted. -/
structure Provider where
  config : Config
  state : ProviderState
  version : Nat
  counted : List (Metric Unit)

namespace Provider

/-- A provider with a configuration that is accepted. -/
def ofConfig (c : Config) : Except ConfigError Provider := do
  c.validate
  return ⟨c, .initial c.networks, 0, []⟩

/-- The provider after its state was replaced and published. -/
def publish (p : Provider) (s : ProviderState) : Provider :=
  { p with state := s, version := p.version + 1 }

/-- The provider after its state was replaced, and published if it is another one. -/
def publishChange (p : Provider) (s : ProviderState) : Provider :=
  if s = p.state then p else p.publish s

/-- The provider after an event was counted. -/
def count (p : Provider) (m : Metric Unit) : Provider :=
  { p with counted := p.counted ++ [m] }

/-! ### Connections -/

/-- An attempt to connect: the kind and the identifier of the chain, and the endpoint. -/
structure Attempt where
  kind : ChainKind
  chain : String
  url : String
deriving DecidableEq

/-- The attempt for a supported chain, if the table has the chain. Without an endpoint of its
own it goes to that of the table. -/
def attempt? (kind : ChainKind) (networks : Table Network) (c : SupportedChain) :
    Option Attempt :=
  (networks.get? c.chain).map fun n => ⟨kind, c.chain, c.url.getD n.wsUrl⟩

/-- The attempts that mounting starts, parachains first. -/
def attempts (c : Config) : List Attempt :=
  c.parachains.filterMap (attempt? .parachain c.networks.parachains)
    ++ c.relaychains.filterMap (attempt? .relaychain c.networks.relaychains)

/-- The provider after an attempt has ended. -/
def complete (p : Provider) (a : Attempt) (r : Except ConnectionError Client) :
    Provider × ApiStatus :=
  let ended (p : Provider) (client : Option Client) (status : ApiStatus) :=
    ((p.count (.apiStatus a.chain status.name)).publish
      (p.state.settleAttempt a.kind a.chain client status), status)
  match r with
  | .ok client => ended p (some client) .connected
  | .error e => ended (p.count (.error "connection" e.code)) none .failed

/-! ### The extension -/

/-- The provider with a status of the extension. -/
def setExtension (p : Provider) (status : ExtensionStatus) : Provider :=
  p.publishChange { p.state with extension := status }

/-- The provider after the extension was given up. -/
def deactivate (p : Provider) : Provider := p.publish p.state.deactivate

/-- The provider with a choice of an account. -/
def select (p : Provider) (index : Option Nat) : Provider :=
  p.publishChange { p.state with selected := index }

end Provider

end Extrinsics
