
/-!
# Failures

The errors of the library by their causes, each with a stable code for programs and a
message for people.
-/

namespace Extrinsics

/-- A submission that fails before its status subscription is installed. -/
inductive SubmissionError where
  /-- The signer refused or failed to sign. -/
  | signing (reason : String)
  /-- The node did not accept the call. -/
  | submission (reason : String)
deriving DecidableEq

namespace SubmissionError

/-- The code of a submission error. -/
def code : SubmissionError → String
  | signing _ => "EXECUTOR_SIGNING_FAILED"
  | submission _ => "EXECUTOR_SUBMISSION_FAILED"

/-- The message of a submission error. -/
def message : SubmissionError → String
  | signing reason => "Signing failed: " ++ reason
  | submission reason => "Submission failed: " ++ reason

end SubmissionError

/-- A connection to a chain that cannot be opened. -/
inductive ConnectionError where
  | unreachable (url reason : String)
  /-- The endpoint answered, but the client could not be set up. -/
  | handshake (reason : String)
  | unknownChain (chain : String)
deriving DecidableEq

namespace ConnectionError

/-- The code of a connection error. -/
def code : ConnectionError → String
  | unreachable _ _ => "CONNECTION_UNREACHABLE"
  | handshake _ => "CONNECTION_HANDSHAKE_FAILED"
  | unknownChain _ => "CONNECTION_UNKNOWN_CHAIN"

/-- The message of a connection error. -/
def message : ConnectionError → String
  | unreachable url reason => "Endpoint " ++ url ++ " unreachable: " ++ reason
  | handshake reason => "Client handshake failed: " ++ reason
  | unknownChain chain => "Unknown chain: " ++ chain

end ConnectionError

/-- A request that the signing extension does not grant. -/
inductive ExtensionError where
  | notInstalled
  | rejected (reason : String)
  /-- The accounts in an address format cannot be listed. -/
  | accountLookup (format : BitVec 16) (reason : String)
  | noSigner (address : String)
deriving DecidableEq

namespace ExtensionError

/-- The code of an extension error. -/
def code : ExtensionError → String
  | notInstalled => "EXTENSION_NOT_INSTALLED"
  | rejected _ => "EXTENSION_REJECTED"
  | accountLookup _ _ => "EXTENSION_ACCOUNT_LOOKUP_FAILED"
  | noSigner _ => "EXTENSION_NO_SIGNER"

/-- The message of an extension error. -/
def message : ExtensionError → String
  | notInstalled => "No signing extension installed"
  | rejected reason => "Extension rejected the request: " ++ reason
  | accountLookup format reason =>
    "Account lookup for prefix " ++ toString format.toNat ++ " failed: " ++ reason
  | noSigner address => "No signer available for " ++ address

end ExtensionError

/-- A module error that the metadata of a chain does not know. -/
inductive RegistryError where
  | unknownModule (index : UInt8)
  | unknownError (index variant : UInt8)
deriving DecidableEq

namespace RegistryError

/-- The code of a registry error. -/
def code : RegistryError → String
  | unknownModule _ => "REGISTRY_UNKNOWN_MODULE"
  | unknownError _ _ => "REGISTRY_UNKNOWN_ERROR"

/-- The message of a registry error. -/
def message : RegistryError → String
  | unknownModule index => "Unknown pallet index " ++ toString index.toNat
  | unknownError index variant =>
    "Unknown error variant " ++ toString variant.toNat ++ " in pallet "
      ++ toString index.toNat

end RegistryError

/-- A configuration that cannot be used. -/
inductive ConfigError where
  /-- The file cannot be read as text. -/
  | unreadable (reason : String)
  /-- The text is no document of the configuration format. -/
  | malformed
  /-- The document does not fit the configuration. -/
  | mismatched (reason : String)
  /-- A supported chain is missing from the network table. -/
  | unknownChain (chain : String)
deriving DecidableEq

namespace ConfigError

/-- The code of a configuration error. -/
def code : ConfigError → String
  | unreadable _ => "CONFIG_IO"
  | malformed => "CONFIG_PARSE"
  | mismatched _ => "CONFIG_PARSE"
  | unknownChain _ => "CONFIG_UNKNOWN_CHAIN"

/-- The message of a configuration error. -/
def message : ConfigError → String
  | unreadable reason => "Failed to read config: " ++ reason
  | malformed => "Failed to parse config"
  | mismatched reason => "Failed to parse config: " ++ reason
  | unknownChain chain => "Chain '" ++ chain ++ "' is not in the network table"

end ConfigError

/-- A failure in one of the parts of the library. -/
inductive Failure where
  | executor (e : SubmissionError)
  | connection (e : ConnectionError)
  | extension (e : ExtensionError)
  | registry (e : RegistryError)
  | config (e : ConfigError)
deriving DecidableEq

namespace Failure

/-- The part of the library that a failure belongs to. -/
def part : Failure → String
  | executor _ => "Executor"
  | connection _ => "Connection"
  | extension _ => "Extension"
  | registry _ => "Registry"
  | config _ => "Config"

/-- The code of a failure. -/
def code : Failure → String
  | executor e => e.code
  | connection e => e.code
  | extension e => e.code
  | registry e => e.code
  | config e => e.code

/-- The message of a failure. -/
def message : Failure → String
  | executor e => e.message
  | connection e => e.message
  | extension e => e.message
  | registry e => e.message
  | config e => e.message

end Failure

end Extrinsics
