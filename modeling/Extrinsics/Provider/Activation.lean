import Extrinsics.Provider.Basic

/-!
# Activation

An activation asks the extension for access, and then for the accounts of each supported
parachain. Between a question and its answer anything else may happen to the provider, so
that an activation has stages: each of them waits for one answer.
-/

namespace Extrinsics

/-- The stage of an activation. -/
inductive Activation where
  /-- Waiting for access. -/
  | enabling
  /-- Waiting for the accounts of a parachain. What is kept: the extensions that granted
  access, the address format that was asked for, the chains to come, and whether any account
  has been found. -/
  | listing (granted : List GrantedExtension) (chain : String) (format : BitVec 16)
      (rest : List SupportedChain) (found : Bool)
  | done (granted : List GrantedExtension)
deriving DecidableEq

namespace Activation

/-- The accounts of a list, those without a name named by their position. -/
def nameAccounts (l : List ListedAccount) : List Account :=
  l.mapIdx fun i a => ⟨a.address, a.name.getD (toString i)⟩

/-- The provider after an activation has begun. -/
def begin (p : Provider) : Provider := p.setExtension .connecting

/-- The provider and the stage after the chains before `rest` have been dealt with. The end
of an activation chooses the first account if there is any. -/
def proceed (p : Provider) (granted : List GrantedExtension) (found : Bool) :
    List SupportedChain → Provider × Activation
  | [] =>
    ((p.publish { p.state with selected := if found then some 0 else none }).count
      (.activation ExtensionStatus.connected.name), done granted)
  | c :: rest =>
    match p.state.parachains.get? c.chain with
    | none => proceed p granted found rest
    | some connection => (p, listing granted c.chain connection.addressFormat rest found)

/-- The provider and the stage after the extension has granted access or not. -/
def enabled (p : Provider) (answer : Except ExtensionError (List GrantedExtension)) :
    Provider × Activation :=
  let p := match answer with
    | .ok _ => p
    | .error e => p.count (.error "extension" e.code)
  match answer.toOption.getD [] with
  | [] =>
    ((p.setExtension .noExtension).count (.activation ExtensionStatus.noExtension.name),
      done [])
  | granted => proceed (p.setExtension .connected) granted false p.config.parachains

/-- The provider and the stage after the extension has listed the accounts of a chain or
not. -/
def listed (p : Provider) (granted : List GrantedExtension) (chain : String)
    (rest : List SupportedChain) (found : Bool)
    (answer : Except ExtensionError (List ListedAccount)) : Provider × Activation :=
  match answer with
  | .error e => proceed (p.count (.error "extension" e.code)) granted found rest
  | .ok l =>
    proceed (p.publish (p.state.setAccounts chain (nameAccounts l))) granted
      (found || !l.isEmpty) rest

end Activation

end Extrinsics
