import Extrinsics.Format.Shape

/-!
# Records of extrinsics

A record describes one submitted call and how far it has come. It is created when the call
enters the ready pool of the node; then the call is included in a block, and the block is
finalized, or the call fails to run.
-/

namespace Extrinsics

/-- The lifecycle status of an extrinsic. -/
inductive Status where
  /-- In the ready pool of the node. -/
  | ready
  /-- In a block that is not final yet. -/
  | inBlock
  /-- In a finalized block. -/
  | finalized
  /-- Failed to run. -/
  | error
deriving DecidableEq

namespace Status

/-- All statuses, in the order of the lifecycle. -/
def all : List Status := [ready, inBlock, finalized, error]

/-- The name of a status. -/
def name : Status → String
  | ready => "isReady"
  | inBlock => "isInBlock"
  | finalized => "isFinalized"
  | error => "Error"

/-- Whether no further change is expected. -/
def isTerminal : Status → Bool
  | finalized => true
  | error => true
  | _ => false

/-- Whether the call is still under way. -/
def isPending (s : Status) : Bool := !s.isTerminal

/-- The written form of a status: its name. -/
def shape : Shape Status := .choice all name

end Status

/-- A call in readable form: its pallet, its method and its arguments. -/
structure Call where
  method : String
  pallet : String
  args : Json

namespace Call

/-- The written form of a call. -/
def shape : Shape Call :=
  .record "CallSummary"
    (.required "method" .text
    (.required "section" .text
    (.defaulted "args" .null .json .nil)))
    (fun (method, pallet, args, _) => ⟨method, pallet, args⟩)
    (fun c => (c.method, c.pallet, c.args, ()))

end Call

/-- An event emitted while an extrinsic was run. -/
structure Event where
  pallet : String
  method : String
  data : Json

namespace Event

/-- The written form of an event. -/
def shape : Shape Event :=
  .record "EventRecord"
    (.required "section" .text
    (.required "method" .text
    (.defaulted "data" .null .json .nil)))
    (fun (pallet, method, data, _) => ⟨pallet, method, data⟩)
    (fun e => (e.pallet, e.method, e.data, ()))

end Event

/-- What identifies a family of calls: one method of one pallet, sent by one account. The
sender of an unsigned call is empty. -/
structure Signature where
  method : String
  pallet : String
  sender : String
deriving DecidableEq

/-- The lifecycle record of one extrinsic. The timestamp is the time of its creation in
milliseconds. -/
structure Record where
  hash : String
  method : String
  pallet : String
  sender : String
  args : Json
  isSigned : Bool
  status : Status
  blockHash : Option String
  dispatchError : Option String
  timestamp : BitVec 64

namespace Record

/-- The record of a call that has entered the ready pool. -/
def ready (hash : String) (call : Call) (sender : String) (isSigned : Bool)
    (timestamp : BitVec 64) : Record where
  hash := hash
  method := call.method
  pallet := call.pallet
  sender := sender
  args := call.args
  isSigned := isSigned
  status := .ready
  blockHash := none
  dispatchError := none
  timestamp := timestamp

/-- The family of calls a record belongs to. -/
def signature (r : Record) : Signature := ⟨r.method, r.pallet, r.sender⟩

/-- The record with another status. -/
def withStatus (status : Status) (r : Record) : Record := { r with status }

/-- The record of a call that failed to run. -/
def failed (message : String) (r : Record) : Record :=
  { r with status := .error, dispatchError := some message }

/-- The record of a call that was included in a block. -/
def included (block : String) (r : Record) : Record :=
  { r with status := .inBlock, blockHash := some block }

/-- Whether two records are the same, with numbers among the arguments compared by value. -/
def same (a b : Record) : Bool :=
  a.hash == b.hash && a.signature == b.signature && a.args.same b.args
    && a.isSigned == b.isSigned && a.status == b.status && a.blockHash == b.blockHash
    && a.dispatchError == b.dispatchError && a.timestamp == b.timestamp

/-- The written form of a record. The block and the error are left out until they are
known. -/
def shape : Shape Record :=
  .record "TransactionRecord"
    (.required "hash" .text
    (.required "method" .text
    (.required "section" .text
    (.required "sender" .text
    (.required "args" .json
    (.required "isSigned" .flag
    (.required "status" Status.shape
    (.omitted "blockHash" .text
    (.omitted "dispatchError" .text
    (.required "timestamp" (.word 64) .nil))))))))))
    (fun (hash, method, pallet, sender, args, isSigned, status, block, error, time, _) =>
      ⟨hash, method, pallet, sender, args, isSigned, status, block, error, time⟩)
    (fun r => (r.hash, r.method, r.pallet, r.sender, r.args, r.isSigned, r.status,
      r.blockHash, r.dispatchError, r.timestamp, ()))

end Record

end Extrinsics
