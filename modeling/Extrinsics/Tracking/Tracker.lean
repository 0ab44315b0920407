import Extrinsics.Dispatch.Registry
import Extrinsics.Hash
import Extrinsics.Store.Snapshot
import Extrinsics.Submission.Update

/-!
# Trackers

A tracker follows one submission. It takes the updates of the submission one by one and
writes what they tell into the store: the record when the call is first ready, the block
when the call is included, and the end of the call, which is either a dispatch error or the
finalization of the block. At the end it stops.

Callbacks are told of the first ready status and of the end. A callback may break off; then
the tracker stops at once.
-/

namespace Extrinsics

/-- What a callback does after it has been told. -/
inductive Callback where
  | returns
  | breaksOff
deriving DecidableEq

/-- The callbacks of one submission. -/
structure Callbacks where
  ready : Option Callback
  finalized : Option Callback
  error : Option Callback
deriving DecidableEq

/-- The description of callbacks: which of them are set. -/
def Callbacks.describe (c : Callbacks) : String :=
  let flag (o : Option Callback) : String := if o.isSome then "true" else "false"
  "TxCallbacks \x7b on_ready: " ++ flag c.ready ++ ", on_finalized: " ++ flag c.finalized
    ++ ", on_error: " ++ flag c.error ++ " \x7d"

/-- One thing that tracking does to the outside. -/
inductive Deed where
  | write (w : Write)
  /-- Tell that a call is ready. -/
  | tellReady (hash : String)
  | tellFinalized (hash : String) (events : List Event)
  | tellError (message : String)
  | count (m : Metric Unit)

/-- How the tracking of a submission ended. -/
inductive Outcome where
  | finalized (hash block : String)
  | failed (hash message : String)
  /-- The stream closed before the end of the call, or a callback broke off. The hash is
  that of the record, if the stream closed after one was made. -/
  | abandoned (hash : Option String)
deriving DecidableEq

/-- A tracker: what its records are made from, and the hash of its record once it is
made. -/
structure Tracker where
  registry : Registry
  call : Call
  sender : String
  isSigned : Bool
  callbacks : Callbacks
  tracked : Option String

namespace Tracker

/-- The record of the call at its creation. -/
def record (t : Tracker) (now : BitVec 64) (hash : String) : Record :=
  .ready hash t.call t.sender t.isSigned now

/-- The duration of the tracking, which is measured from the creation of the record. -/
def lifecycle (t : Tracker) : List Deed := t.tracked.toList.map fun _ => .count (.lifecycle ())

/-- What follows from the first ready status, the tracker after it, and whether the callback
broke off. -/
def enter (t : Tracker) (now : BitVec 64) (hash : String) (u : Update) :
    List Deed × Tracker × Bool :=
  if u.isReady && t.tracked.isNone then
    let made := Deed.write (.add hash (t.record now hash))
    let t' := { t with tracked := some hash }
    match t.callbacks.ready with
    | none => ([made, .count .recordCreated], t', false)
    | some .returns => ([made, .tellReady hash, .count .recordCreated], t', false)
    | some .breaksOff => ([made, .tellReady hash], t, true)
  else ([], t, false)

/-- What follows from the inclusion in a block. -/
def noteBlock (hash : String) (u : Update) : List Deed :=
  u.block?.toList.map fun b => .write (.block hash (Hash.normalize b))

/-- The last deeds of a tracker and its outcome, given what it does first, the callback and
what it is told, and the terminal status. -/
def finish (t : Tracker) (first : List Deed) (callback : Option Callback) (told : Deed)
    (status : Status) (outcome : Outcome) : List Deed × Outcome :=
  let counted := Deed.count (.terminal status.name) :: t.lifecycle
  match callback with
  | none => (first ++ counted, outcome)
  | some .returns => (first ++ told :: counted, outcome)
  | some .breaksOff => (first ++ told :: t.lifecycle, .abandoned none)

/-- What follows from the end of the call, if the update tells it. A dispatch error goes
before finalization. -/
def conclude (t : Tracker) (hash : String) (u : Update) : Option (List Deed × Outcome) :=
  match u.dispatchError with
  | some e =>
    let message := (t.registry.describe e).1
    some (t.finish
      ((t.registry.describeMetrics e).map Deed.count ++ [.write (.error hash message)])
      t.callbacks.error (.tellError message) .error (.failed hash message))
  | none =>
    u.finalBlock?.map fun b =>
      t.finish [.write (.status hash .finalized)] t.callbacks.finalized
        (.tellFinalized hash u.events) .finalized (.finalized hash (Hash.normalize b))

/-- What follows from one update: the deeds, the tracker after them, and its outcome if it
stops. -/
def receive (t : Tracker) (now : BitVec 64) (u : Update) :
    List Deed × Tracker × Option Outcome :=
  let hash := Hash.normalize u.hash
  match t.enter now hash u with
  | (entering, t, true) => (entering, t, some (.abandoned none))
  | (entering, t, false) =>
    match t.conclude hash u with
    | none => (entering ++ noteBlock hash u, t, none)
    | some (ending, outcome) => (entering ++ noteBlock hash u ++ ending, t, some outcome)

/-- The outcome when the stream closes before the end of the call. -/
def abandon (t : Tracker) : Outcome := .abandoned t.tracked

end Tracker

end Extrinsics
