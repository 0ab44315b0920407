import Extrinsics.Submission.Update

/-!
# Prepared calls and their feeds

A prepared call can be submitted any number of times. All its submissions share one feed,
through which the client sends updates: the latest submission is attached to the feed, and
the cancelling of any submission of the call empties the feed.
-/

namespace Extrinsics

/-- A call that is ready to be submitted. -/
structure PreparedCall where
  call : Call
  /-- The hash the client reports for the call. -/
  hash : String
  /-- The reason for which the node rejects the call, if it does. -/
  rejection : Option String
  /-- The updates that are sent as soon as the call is submitted. -/
  script : List Update

/-- A report about a prepared call. -/
def PreparedCall.report (p : PreparedCall) (status : PoolStatus)
    (error : Option DispatchError) (events : List Event) : Update :=
  ⟨p.hash, status, error, events⟩

/-- The feed of a prepared call. -/
structure Feed where
  prepared : PreparedCall
  /-- The tracking task whose stream is attached. -/
  attached : Option Nat
  /-- How often the call was submitted. -/
  submissions : Nat
  /-- How often a submission of the call was cancelled. -/
  unsubscribed : Nat

/-- The feed of a call that has not been submitted. -/
def Feed.ofCall (prepared : PreparedCall) : Feed := ⟨prepared, none, 0, 0⟩

end Extrinsics
