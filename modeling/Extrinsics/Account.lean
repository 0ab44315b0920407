import Extrinsics.Dispatch.Registry
import Extrinsics.Format.Shape

/-!
# Accounts and connection statuses

What signing extensions and chain connections tell of themselves.
-/

namespace Extrinsics

/-- An account to choose from. Its name is the one the extension gives, or its position. -/
structure Account where
  address : String
  name : String
deriving DecidableEq

/-- The written form of an account. -/
def Account.shape : Shape Account :=
  .record "Account" (.required "address" .text (.required "name" .text .nil))
    (fun (address, name, _) => ⟨address, name⟩) (fun a => (a.address, a.name, ()))

/-- An account as an extension lists it, perhaps without a name. -/
structure ListedAccount where
  address : String
  name : Option String
deriving DecidableEq

/-- The written form of a listed account. -/
def ListedAccount.shape : Shape ListedAccount :=
  .record "InjectedAccount" (.required "address" .text (.optional "name" .text .nil))
    (fun (address, name, _) => ⟨address, name⟩) (fun a => (a.address, a.name, ()))

/-- A signing extension that grants access. -/
structure GrantedExtension where
  name : String
  version : String
deriving DecidableEq

/-- The written form of an extension. -/
def GrantedExtension.shape : Shape GrantedExtension :=
  .record "InjectedExtension" (.required "name" .text (.required "version" .text .nil))
    (fun (name, version, _) => ⟨name, version⟩) (fun e => (e.name, e.version, ()))

/-- The written form of what metadata declare of an error. -/
def MetaError.shape : Shape MetaError :=
  .record "MetaError"
    (.required "section" .text (.required "name" .text (.required "docs" (.list .text) .nil)))
    (fun (pallet, name, docs, _) => ⟨pallet, name, docs⟩)
    (fun e => (e.pallet, e.name, e.docs, ()))

/-- The status of a connection to a chain. -/
inductive ApiStatus where
  | initializing
  | connected
  | failed
deriving DecidableEq

namespace ApiStatus

/-- All statuses of a connection. -/
def all : List ApiStatus := [initializing, connected, failed]

/-- The name of a status. -/
def name : ApiStatus → String
  | initializing => "initializing"
  | connected => "connected"
  | failed => "failed"

/-- The written form of a status: its name. -/
def shape : Shape ApiStatus := .choice all name

end ApiStatus

/-- The status of the signing extension. -/
inductive ExtensionStatus where
  /-- Not activated. -/
  | initializing
  /-- Being activated. -/
  | connecting
  /-- Access is granted. -/
  | connected
  /-- None is installed, or none grants access. -/
  | noExtension
deriving DecidableEq

namespace ExtensionStatus

/-- All statuses of the signing extension. -/
def all : List ExtensionStatus := [initializing, connecting, connected, noExtension]

/-- The name of a status. -/
def name : ExtensionStatus → String
  | initializing => "initializing"
  | connecting => "connecting"
  | connected => "connected"
  | noExtension => "no_extension"

/-- The written form of a status: its name. -/
def shape : Shape ExtensionStatus := .choice all name

end ExtensionStatus

end Extrinsics
