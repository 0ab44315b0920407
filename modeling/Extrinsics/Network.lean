import Extrinsics.Format.Shape

/-!
# Networks

The table of the chains that are known: their names, endpoints, address formats and tokens.
-/

namespace Extrinsics

/-- The description of one network. -/
structure Network where
  name : String
  wsUrl : String
  tokenId : String
  addressFormat : BitVec 16
  accountType : String
  subscanUrl : String
  decimals : BitVec 8
  color : String
  symbol : String
  logo : String
  /-- The number of a parachain on its relay chain. -/
  parachainId : Option (BitVec 32)
  /-- The relay chain of a parachain. -/
  relayChain : Option String
  /-- The identifier of a relay chain. -/
  networkId : Option String
deriving DecidableEq

namespace Network

/-- The account type of networks that do not tell theirs. -/
def defaultAccountType : String := "*25519"

/-- The written form of a network. -/
def shape : Shape Network :=
  .record "NetworkConfig"
    (.required "name" .text
    (.required "ws_url" .text
    (.required "token_id" .text
    (.required "prefix" (.word 16)
    (.defaulted "account_type" defaultAccountType .text
    (.defaulted "subscan_url" "" .text
    (.required "decimals" (.word 8)
    (.defaulted "color" "" .text
    (.required "symbol" .text
    (.defaulted "logo" "" .text
    (.optional "parachain_id" (.word 32)
    (.optional "relay_chain" .text
    (.optional "network_id" .text .nil)))))))))))))
    (fun (name, ws, token, format, account, subscan, decimals, color, symbol, logo,
        parachain, relay, network, _) =>
      ⟨name, ws, token, format, account, subscan, decimals, color, symbol, logo, parachain,
        relay, network⟩)
    (fun n => (n.name, n.wsUrl, n.tokenId, n.addressFormat, n.accountType, n.subscanUrl,
      n.decimals, n.color, n.symbol, n.logo, n.parachainId, n.relayChain, n.networkId, ()))

end Network

/-- The table of known parachains and relay chains by their identifiers. -/
structure NetworkTable where
  parachains : Table Network
  relaychains : Table Network
deriving DecidableEq

namespace NetworkTable

/-- The written form of a network table. -/
def shape : Shape NetworkTable :=
  .record "NetworkRegistry"
    (.defaulted "parachains" .empty (.table Network.shape)
    (.defaulted "relaychains" .empty (.table Network.shape) .nil))
    (fun (parachains, relaychains, _) => ⟨parachains, relaychains⟩)
    (fun t => (t.parachains, t.relaychains, ()))

/-! ### The networks known without a configuration -/

/-- The address of the logo of a chain. -/
private def logo (chain : String) : String :=
  "https://raw.githubusercontent.com/TalismanSociety/chaindata/2778d4b989407a2e9fca6ae897fe849561f74afe/assets"
    ++ "/" ++ chain ++ "/logo.svg"

/-- The parachain Picasso. -/
def picasso : Network where
  name := "Picasso"
  wsUrl := "wss://picasso-rpc.composable.finance"
  tokenId := "pica"
  addressFormat := 49
  accountType := "*25519"
  subscanUrl := ""
  decimals := 12
  color := "#B09A9F"
  symbol := "PICA"
  logo := logo "picasso"
  parachainId := some 2087
  relayChain := some "kusama"
  networkId := none

/-- The parachain Karura. -/
def karura : Network where
  name := "Karura"
  wsUrl := "wss://karura-rpc-0.aca-api.network"
  tokenId := "kar"
  addressFormat := 8
  accountType := "*25519"
  subscanUrl := "https://karura.subscan.io/"
  decimals := 12
  color := "#ff4c3b"
  symbol := "KAR"
  logo := logo "karura"
  parachainId := some 2000
  relayChain := some "kusama"
  networkId := none

/-- The relay chain Kusama. -/
def kusama : Network where
  name := "Kusama"
  wsUrl := "wss://kusama-rpc.polkadot.io"
  tokenId := "ksm"
  addressFormat := 2
  accountType := "*25519"
  subscanUrl := "https://kusama.subscan.io/"
  decimals := 12
  color := "#000000"
  symbol := "KSM"
  logo := logo "kusama"
  parachainId := none
  relayChain := none
  networkId := some "kusama"

/-- The relay chain Polkadot. -/
def polkadot : Network where
  name := "Polkadot"
  wsUrl := "wss://rpc.polkadot.io"
  tokenId := "dot"
  addressFormat := 0
  accountType := "*25519"
  subscanUrl := "https://polkadot.subscan.io/"
  decimals := 10
  color := "#e6007a"
  symbol := "DOT"
  logo := logo "polkadot"
  parachainId := none
  relayChain := none
  networkId := some "polkadot"

/-- The table used without a configuration. -/
def builtIn : NetworkTable where
  parachains := .ofList [("karura", karura), ("picasso", picasso)]
  relaychains := .ofList [("kusama", kusama), ("polkadot", polkadot)]

end NetworkTable

end Extrinsics
