import Extrinsics.Store.Live
import Extrinsics.Submission.Feed
import Extrinsics.Submission.Signer
import Extrinsics.Submission.Subscription
import Extrinsics.Text.Hex
import Extrinsics.Tracking.Tracker

/-!
# The executor

The executor submits prepared calls and tracks each submission by a task of its own. A task
takes the updates of its stream one at a time. The tasks that have something to take stand
in a queue, and the one at the front has its turn: it goes on until its stream has nothing
more, or until the turn has as many steps as are allowed. Then it is put aside, and after a
round of turns the tasks put aside return to the end of the queue, the last one first.
-/

namespace Extrinsics

/-- The tracking of one submission. -/
structure Task where
  /-- The feed of the submitted call. -/
  feed : Nat
  stream : Subscription
  tracker : Tracker
  outcome : Option Outcome

namespace Task

/-- Whether the task has stopped. -/
def isFinished (t : Task) : Bool := t.outcome.isSome

end Task

/-- The executor with its store, the feeds of the calls it knows, its tasks, the tasks that
wait for their turn, those whose turn was cut, the last one first, and everything that has
been done. -/
structure Executor where
  /-- The client that calls are submitted through, if no other one is given with the call. -/
  client : Client
  store : Store
  feeds : List Feed
  tasks : List Task
  queue : List Nat
  aside : List Nat
  deeds : List Deed

namespace Executor

/-- An executor that has done nothing yet. -/
def start (client : Client) : Executor := ⟨client, .empty, [], [], [], [], []⟩

/-! ### Deeds -/

/-- A deed that is done and noted. -/
def act (x : Executor) (d : Deed) : Executor :=
  match d with
  | .write w => { x with store := x.store.write w, deeds := x.deeds ++ [d] }
  | _ => { x with deeds := x.deeds ++ [d] }

/-- Deeds that are done one after the other. -/
def actAll (x : Executor) (ds : List Deed) : Executor := ds.foldl act x

/-! ### Streams -/

/-- The executor with a task changed. -/
def modifyTask (x : Executor) (i : Nat) (f : Task → Task) : Executor :=
  { x with tasks := x.tasks.modify i f }

/-- The executor with a feed changed. -/
def modifyFeed (x : Executor) (i : Nat) (f : Feed → Feed) : Executor :=
  { x with feeds := x.feeds.modify i f }

/-- Whether a task has stopped. -/
def hasStopped (x : Executor) (i : Nat) : Bool := x.tasks[i]?.any Task.isFinished

/-- The executor with a task in the queue, unless it waits already or has stopped. -/
def wake (x : Executor) (i : Nat) : Executor :=
  if x.hasStopped i || x.queue.contains i || x.aside.contains i then x
  else { x with queue := x.queue ++ [i] }

/-- The executor after the sending side of a stream has gone. -/
def closeStream (x : Executor) (i : Nat) : Executor :=
  (x.modifyTask i fun t => { t with stream := t.stream.close }).wake i

/-- The executor after a feed has let go of the stream that is attached to it. -/
def detach (x : Executor) (feed : Nat) : Executor :=
  match x.feeds[feed]? with
  | some ⟨_, some i, _, _⟩ =>
    (x.modifyFeed feed fun f => { f with attached := none }).closeStream i
  | _ => x

/-- The executor after a task has cancelled its subscription. This empties the feed. -/
def cancel (x : Executor) (i : Nat) : Executor :=
  match x.tasks[i]? with
  | none => x
  | some t =>
    let x := x.modifyTask i fun t => { t with stream := t.stream.drop }
    if t.stream.isActive then
      (x.modifyFeed t.feed fun f => { f with unsubscribed := f.unsubscribed + 1 }).detach t.feed
    else x

/-! ### Tasks -/

/-- The executor after a task has stopped. -/
def stop (x : Executor) (i : Nat) (outcome : Outcome) : Executor :=
  (x.modifyTask i fun t => { t with outcome := some outcome }).cancel i

/-- One step of a task, if there is something for it to do: it takes an update, or it notes
that its stream is closed. -/
def step (now : BitVec 64) (i : Nat) (x : Executor) : Option Executor :=
  match x.tasks[i]? with
  | none => none
  | some t =>
    if t.isFinished then none
    else
      match t.stream.next with
      | (.pending, _) => none
      | (.closed, _) => some (x.stop i t.tracker.abandon)
      | (.update u, stream) =>
        let (deeds, tracker, outcome) := t.tracker.receive now u
        let x := (x.modifyTask i fun t => { t with stream, tracker }).actAll deeds
        match outcome with
        | none => some x
        | some o => some (x.stop i o)

/-- The greatest number of steps in a turn. -/
def turnLength : Nat := 128

/-- The greatest number of turns in a round. -/
def roundLength : Nat := 61

/-- The steps of a task in a turn that has some steps left. A task that has taken all of them
and has not stopped is put aside. -/
def runTurn (now : BitVec 64) (i : Nat) : Nat → Executor → Executor
  | 0, x => if x.hasStopped i then x else { x with aside := i :: x.aside }
  | steps + 1, x =>
    match x.step now i with
    | some x => runTurn now i steps x
    | none => x

/-- The turns of the queued tasks in a round that has some turns left. -/
def runTurns (now : BitVec 64) : Nat → Executor → Executor
  | 0, x => x
  | turns + 1, x =>
    match x.queue with
    | [] => x
    | i :: queue => runTurns now turns (runTurn now i turnLength { x with queue })

/-- A round of turns, after which the tasks put aside are in the queue again. -/
def runRound (now : BitVec 64) (x : Executor) : Executor :=
  let x := runTurns now roundLength x
  { x with queue := x.queue ++ x.aside, aside := [] }

/-- Rounds until no task waits for its turn, with a bound on their number. -/
def runRounds (now : BitVec 64) : Nat → Executor → Executor
  | 0, x => x
  | bound + 1, x => if x.queue.isEmpty then x else runRounds now bound (x.runRound now)

/-- A number of turns after which every task waits: in each a task takes an update or stops,
or it has been woken for nothing, and a task that stops wakes at most one other. -/
def pendingTurns (x : Executor) : Nat :=
  (x.tasks.flatMap fun t => t.stream.queue).length + 3 * x.tasks.length + x.queue.length

/-- All tasks run until they wait for updates. -/
def settle (now : BitVec 64) (x : Executor) : Executor := runRounds now x.pendingTurns x

/-! ### Submission -/

/-- How a call is submitted. -/
inductive Mode where
  | signed (sender : String) (signer : Signer)
  | unsigned

namespace Mode

/-- The account that submits the call, empty for none. -/
def sender : Mode → String
  | signed sender _ => sender
  | unsigned => ""

/-- Whether the call is signed. -/
def isSigned : Mode → Bool
  | signed _ _ => true
  | unsigned => false

/-- The kind under which a submission is counted. -/
def kind : Mode → String
  | signed _ _ => "signed"
  | unsigned => "unsigned"

/-- The signing that goes before a submission: the account signs the octets of the hash. -/
def authorize (hash : String) : Mode → Except SubmissionError Unit
  | unsigned => .ok ()
  | signed sender signer =>
    match (signer.sign sender (Hex.octets hash)).2 with
    | .ok _ => .ok ()
    | .error e => .error (.signing e.message)

end Mode

/-- A prepared call made known to the executor, and the number of its feed. -/
def prepare (x : Executor) (p : PreparedCall) : Executor × Nat :=
  ({ x with feeds := x.feeds ++ [.ofCall p] }, x.feeds.length)

/-- A subscription to the updates of a call, and the number of its task. It takes the place
of an earlier one at the feed. Errors are described by the registry of the client. -/
def subscribe (x : Executor) (feed : Nat) (p : PreparedCall) (mode : Mode)
    (callbacks : Callbacks) (client : Client) : Executor × Nat :=
  let stream := p.script.foldl (fun s u => Subscription.send u s) Subscription.start
  let tracker : Tracker :=
    ⟨client.registry, p.call, mode.sender, mode.isSigned, callbacks, none⟩
  let i := x.tasks.length
  let task : Task := ⟨feed, stream, tracker, none⟩
  let freed := x.detach feed
  let joined := { freed with tasks := freed.tasks ++ [task] }
  let joined := joined.modifyFeed feed fun f =>
    { f with attached := some i, submissions := f.submissions + 1 }
  (joined.wake i, i)

/-- The submission of a call through a client: the number of its task, or why it was refused.
Nothing happens if the executor does not know the call. -/
def submit (x : Executor) (feed : Nat) (mode : Mode) (callbacks : Callbacks)
    (client : Client := x.client) : Executor × Except SubmissionError Nat :=
  match x.feeds[feed]? with
  | none => (x, .error (.submission ""))
  | some f =>
    let x := x.act (.count (.submitted mode.kind))
    let granted := do
      mode.authorize f.prepared.hash
      match f.prepared.rejection with
      | some reason => .error (.submission reason)
      | none => .ok ()
    match granted with
    | .error e => (x.act (.count (.error "executor" e.code)), .error e)
    | .ok () =>
      let (x, i) := x.subscribe feed f.prepared mode callbacks client
      (x, .ok i)

/-! ### Feeds -/

/-- Whether an update sent through a feed is accepted. -/
def isSubscribed (x : Executor) (feed : Nat) : Bool :=
  match x.feeds[feed]? with
  | some ⟨_, some i, _, _⟩ =>
    match x.tasks[i]? with
    | some t => t.stream.accepts
    | none => false
  | _ => false

/-- An update sent through a feed, if a subscriber is attached. -/
def send (x : Executor) (feed : Nat) (u : Update) : Executor :=
  match x.feeds[feed]? with
  | some ⟨_, some i, _, _⟩ =>
    if x.isSubscribed feed then
      (x.modifyTask i fun t => { t with stream := t.stream.send u }).wake i
    else x
  | _ => x

end Executor

end Extrinsics
