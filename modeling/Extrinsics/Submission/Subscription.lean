import Extrinsics.Submission.Update

/-!
# Subscriptions

A subscription is the receiving end of a stream of updates. Updates that were sent while it
was active stay in its queue until they are taken, also when it has been cancelled or the
sending side is gone. Cancelling runs the client's unsubscribe handle, once.
-/

namespace Extrinsics

/-- A stream of updates and its subscription. -/
structure Subscription where
  /-- The updates that have been sent and not been taken. -/
  queue : List Update
  /-- Whether the sending side exists. -/
  hasSender : Bool
  /-- Whether the subscription has not been cancelled. -/
  isActive : Bool
  /-- How often the unsubscribe handle has run. -/
  unsubscribed : Nat

/-- What a subscriber gets when it asks for the next update. -/
inductive Arriving where
  | update (u : Update)
  /-- There is none yet. -/
  | pending
  /-- There will be none. -/
  | closed

namespace Subscription

/-- A new subscription. -/
def start : Subscription := ⟨[], true, true, 0⟩

/-- Whether an update that is sent now is accepted. -/
def accepts (s : Subscription) : Bool := s.hasSender && s.isActive

/-- The subscription after an update was sent. -/
def send (u : Update) (s : Subscription) : Subscription :=
  if s.accepts then { s with queue := s.queue ++ [u] } else s

/-- The subscription after the sending side has gone. -/
def close (s : Subscription) : Subscription := { s with hasSender := false }

/-- The next update, and the subscription after it was taken. -/
def next (s : Subscription) : Arriving × Subscription :=
  match s.queue with
  | u :: queue => (.update u, { s with queue })
  | [] => (if s.accepts then .pending else .closed, s)

/-- The cancelled subscription. -/
def unsubscribe (s : Subscription) : Subscription :=
  if s.isActive then { s with isActive := false, unsubscribed := s.unsubscribed + 1 } else s

/-- The subscription after its owner has dropped it: it is cancelled, and the updates in the
queue are lost. -/
def drop (s : Subscription) : Subscription := { s.unsubscribe with queue := [] }

/-- The description of a subscription. -/
def describe (s : Subscription) : String :=
  "Subscription \x7b active: " ++ (if s.isActive then "true" else "false") ++ ", .. \x7d"

end Subscription

end Extrinsics
