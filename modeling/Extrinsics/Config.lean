import Extrinsics.Failure
import Extrinsics.Format.TomlText
import Extrinsics.Network

/-!
# Configuration

The chains to connect to, the table of networks they come from, and options for logs. A
configuration is accepted if the table has every supported chain of the same kind.
-/

namespace Extrinsics

/-- A chain to connect to, perhaps at another endpoint than that of the network table. -/
structure SupportedChain where
  chain : String
  url : Option String
deriving DecidableEq

/-- The written form of a supported chain. -/
def SupportedChain.shape : Shape SupportedChain :=
  .record "SupportedChain" (.required "chain_id" .text (.optional "rpc_url" .text .nil))
    (fun (chain, url, _) => ⟨chain, url⟩) (fun c => (c.chain, c.url, ()))

/-- Options for logs. -/
structure LogOptions where
  /-- Whether each line is a JSON object. -/
  json : Bool
  /-- The filter used when the environment gives none. -/
  defaultFilter : String
deriving DecidableEq

namespace LogOptions

/-- JSON lines for levels from `info` on. -/
def standard : LogOptions := ⟨true, "info"⟩

/-- The written form of options for logs. -/
def shape : Shape LogOptions :=
  .record "TelemetryConfig"
    (.defaulted "json_logs" standard.json .flag
    (.defaulted "default_filter" standard.defaultFilter .text .nil))
    (fun (json, filter, _) => ⟨json, filter⟩) (fun o => (o.json, o.defaultFilter, ()))

end LogOptions

/-- A configuration of the connection provider. -/
structure Config where
  /-- The name under which the signing extension knows the application. -/
  appName : String
  parachains : List SupportedChain
  relaychains : List SupportedChain
  networks : NetworkTable
  logs : LogOptions
deriving DecidableEq

namespace Config

/-- The configuration with the built-in networks and no supported chain. -/
def ofName (appName : String) : Config := ⟨appName, [], [], .builtIn, .standard⟩

/-- The written form of a configuration. -/
def shape : Shape Config :=
  .record "ProviderConfig"
    (.required "app_name" .text
    (.defaulted "supported_parachains" [] (.list SupportedChain.shape)
    (.defaulted "supported_relaychains" [] (.list SupportedChain.shape)
    (.defaulted "networks" .builtIn NetworkTable.shape
    (.defaulted "telemetry" .standard LogOptions.shape .nil)))))
    (fun (appName, parachains, relaychains, networks, logs, _) =>
      ⟨appName, parachains, relaychains, networks, logs⟩)
    (fun c => (c.appName, c.parachains, c.relaychains, c.networks, c.logs, ()))

/-! ### Acceptance -/

/-- The first supported chain that a table of networks does not have. -/
def missing? (chains : List SupportedChain) (networks : Table Network) : Option String :=
  (chains.find? fun c => !networks.contains c.chain).map SupportedChain.chain

/-- The check that the network table has every supported chain, parachains first. -/
def validate (c : Config) : Except ConfigError Unit :=
  match (missing? c.parachains c.networks.parachains).or
      (missing? c.relaychains c.networks.relaychains) with
  | none => .ok ()
  | some chain => .error (.unknownChain chain)

/-! ### Reading -/

/-- The configuration a TOML text holds. -/
def ofToml (s : String) : Except ConfigError Config :=
  match TomlText.tree? s with
  | none => .error .malformed
  | some tree =>
    match shape.decode .config tree with
    | .error (.mismatch m) => .error (.mismatched (m.message Binary64.pointedText))
    | .error (.defect _) => .error .malformed
    | .ok config => do
      config.validate
      return config

/-- What is found at the path of a configuration file. -/
inductive File where
  | missing
  | directory
  /-- The path goes through a file that is no directory. -/
  | belowFile
  | holding (octets : List UInt8)

/-- The octets of a file. -/
def File.octets : File → Except ConfigError (List UInt8)
  | missing => .error (.unreadable "No such file or directory (os error 2)")
  | directory => .error (.unreadable "Is a directory (os error 21)")
  | belowFile => .error (.unreadable "Not a directory (os error 20)")
  | holding octets => .ok octets

/-- The configuration a file holds. -/
def load (file : File) : Except ConfigError Config := do
  let octets ← file.octets
  match String.fromUTF8? ⟨octets.toArray⟩ with
  | none => .error (.unreadable "stream did not contain valid UTF-8")
  | some s => ofToml s

end Config

end Extrinsics
