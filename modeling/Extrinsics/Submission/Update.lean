import Extrinsics.Dispatch.Error
import Extrinsics.Record

/-!
# Status updates

What a node reports about a submitted call.
-/

namespace Extrinsics

/-- The place of a call in the transaction pool. Blocks and transactions are named by their
hashes. -/
inductive PoolStatus where
  /-- Waiting for an earlier call of the account. -/
  | future
  | ready
  | broadcast (peers : List String)
  | inBlock (block : String)
  /-- The block that included the call was withdrawn. -/
  | retracted (block : String)
  /-- The block was not finalized in time. -/
  | finalityTimeout (block : String)
  | finalized (block : String)
  /-- Another transaction took the place of the call. -/
  | usurped (transaction : String)
  | dropped
  | invalid
deriving DecidableEq

/-- One report about a call. The hash is the one the client gives, in any letter case. -/
structure Update where
  hash : String
  status : PoolStatus
  dispatchError : Option DispatchError
  events : List Event

namespace Update

/-- A report of a status, without an error and events. -/
def ofStatus (hash : String) (status : PoolStatus) : Update := ⟨hash, status, none, []⟩

/-- Whether the call has entered the ready pool. -/
def isReady (u : Update) : Bool := u.status = .ready

/-- The block that includes the call, if it is not final. -/
def block? (u : Update) : Option String :=
  match u.status with
  | .inBlock b => some b
  | _ => none

/-- The final block that includes the call. -/
def finalBlock? (u : Update) : Option String :=
  match u.status with
  | .finalized b => some b
  | _ => none

/-- Whether the block of the call is final. -/
def isFinalized (u : Update) : Bool := u.finalBlock?.isSome

end Update

end Extrinsics
