import Extrinsics.Provider.Activation
import Extrinsics.Provider.Bridge

/-!
# Scenarios

A provider among scripted endpoints and extensions, with a clock of its own. Attempts to
connect and activations are jobs. A job goes on until it waits for a timer; jobs whose timer
has fired stand in a queue and go on in its order. Timers fire in the order of their times,
and those of one time in the order in which they were set. The clock stands still except when
it is advanced or when somebody outside waits; then it jumps from timer to timer.
-/

namespace Extrinsics

/-- A job of the provider. -/
inductive Job where
  /-- An attempt to connect, and whether its endpoint has been asked. -/
  | attempting (a : Provider.Attempt) (asked : Bool)
  /-- An attempt that has ended with a status. -/
  | attempted (chain : String) (status : ApiStatus)
  /-- An activation, and the extension that has been asked, by its number. -/
  | activating (stage : Activation) (asked : Option Nat)
  | activated (granted : List GrantedExtension)
  /-- A job that was cancelled or broke off. -/
  | cancelled
deriving DecidableEq

namespace Job

/-- Whether a job has ended. -/
def isFinished : Job → Bool
  | attempting _ _ => false
  | activating _ _ => false
  | _ => true

/-- The chain and the status of an attempt that has ended with one. -/
def status? : Job → Option (String × ApiStatus)
  | attempted chain status => some (chain, status)
  | _ => none

end Job

/-- A timer that wakes a job. -/
structure Timer where
  deadline : Nat
  job : Nat
deriving DecidableEq

/-- A provider in its surroundings. Times are in milliseconds. -/
structure Scenario where
  provider : Provider
  connector : Connector
  /-- The endpoints that have been asked. -/
  asked : List String
  /-- All extensions that have been in place, the present one last. -/
  extensions : List ScriptedExtension
  now : Nat
  /-- The timers in the order in which they fire. -/
  timers : List Timer
  queue : List Nat
  jobs : List Job

namespace Scenario

/-- The scenario in which nothing has happened. -/
def start (p : Provider) (c : Connector) (e : ScriptedExtension) : Scenario where
  provider := p
  connector := c
  asked := []
  extensions := [e]
  now := 0
  timers := []
  queue := []
  jobs := []

/-! ### Time -/

/-- The timers with one more, behind those of the same time. -/
def insertTimer (t : Timer) : List Timer → List Timer
  | [] => [t]
  | u :: rest => if t.deadline < u.deadline then t :: u :: rest else u :: insertTimer t rest

/-- The scenario with a job to be woken after a time. -/
def sleep (s : Scenario) (ms job : Nat) : Scenario :=
  { s with timers := insertTimer ⟨s.now + ms, job⟩ s.timers }

/-- The scenario at a later time, with the jobs in the queue whose timers have fired. -/
def jump (s : Scenario) (time : Nat) : Scenario :=
  { s with
    now := time
    timers := s.timers.filter fun t => !(t.deadline ≤ time)
    queue := s.queue ++ (s.timers.filter fun t => t.deadline ≤ time).map Timer.job }

/-! ### Extensions -/

/-- The number of the present extension. -/
def current (s : Scenario) : Nat := s.extensions.length - 1

/-- The time an extension takes before it answers. -/
def delay (s : Scenario) (i : Nat) : Nat := (s.extensions[i]?.map ScriptedExtension.delay).getD 0

/-- A request for access to an extension. -/
def enable (s : Scenario) (i : Nat) :
    Scenario × Except ExtensionError (List GrantedExtension) :=
  match s.extensions[i]? with
  | none => (s, .error .notInstalled)
  | some e =>
    let (e, answer) := e.enable s.provider.config.appName
    ({ s with extensions := s.extensions.set i e }, answer)

/-- A request for accounts from an extension. -/
def list (s : Scenario) (i : Nat) (format : BitVec 16) :
    Except ExtensionError (List ListedAccount) :=
  match s.extensions[i]? with
  | none => .error .notInstalled
  | some e => e.list format

/-- The scenario and the stage of an activation after the answer of an extension. -/
def answer (s : Scenario) (stage : Activation) (i : Nat) : Scenario × Activation :=
  match stage with
  | .enabling =>
    let (s, answer) := s.enable i
    let (provider, stage) := Activation.enabled s.provider answer
    ({ s with provider }, stage)
  | .listing granted chain format rest found =>
    let (provider, stage) :=
      Activation.listed s.provider granted chain rest found (s.list i format)
    ({ s with provider }, stage)
  | .done granted => (s, .done granted)

/-- An activation goes on as long as the present extension answers at once, with a bound on
the number of answers. The last result is the extension that has been asked and needs
time. -/
def converse : Nat → Scenario → Activation → Scenario × Activation × Option Nat
  | 0, s, stage => (s, stage, none)
  | _ + 1, s, .done granted => (s, .done granted, none)
  | bound + 1, s, stage =>
    if s.delay s.current = 0 then
      let (s, stage) := s.answer stage s.current
      converse bound s stage
    else (s, stage, some s.current)

/-- A number that no activation's answers exceed. -/
def questions (s : Scenario) : Nat := s.provider.config.parachains.length + 2

/-! ### Jobs -/

/-- The scenario with a job replaced. -/
def setJob (s : Scenario) (i : Nat) (job : Job) : Scenario :=
  { s with jobs := s.jobs.set i job }

/-- The scenario after an attempt has ended. -/
def endAttempt (s : Scenario) (i : Nat) (a : Provider.Attempt)
    (r : Except ConnectionError Client) : Scenario :=
  let (provider, status) := s.provider.complete a r
  { s with provider }.setJob i (.attempted a.chain status)

/-- The client of a chain that has been connected to. -/
def client (chain : String) : Client := ⟨chain, .balances⟩

/-- The scenario after an attempt has asked its endpoint. -/
def askEndpoint (s : Scenario) (i : Nat) (a : Provider.Attempt) : Scenario :=
  match s.connector.refusals.get? a.url with
  | some (.error e) => s.endAttempt i a (.error e)
  | some .breaksOff => s.setJob i .cancelled
  | none =>
    let s := { s with asked := s.asked ++ [a.url] }
    match s.connector.endpoints.get? a.url with
    | none => s.endAttempt i a (.ok (client a.chain))
    | some (.fails reason) => s.endAttempt i a (.error (.unreachable a.url reason))
    | some .hangs => s.setJob i (.attempting a true)
    | some (.connects ms) =>
      if ms = 0 then s.endAttempt i a (.ok (client a.chain))
      else (s.sleep ms i).setJob i (.attempting a true)

/-- The scenario after an activation that is a job has gone on from a stage. -/
def goOn (s : Scenario) (i : Nat) (stage : Activation) : Scenario :=
  match converse s.questions s stage with
  | (s, .done granted, _) => s.setJob i (.activated granted)
  | (s, stage, some e) => (s.sleep (s.delay e) i).setJob i (.activating stage (some e))
  | (s, stage, none) => s.setJob i (.activating stage none)

/-- The scenario after a job has gone on until it waits again or ends. -/
def resume (s : Scenario) (i : Nat) : Scenario :=
  match s.jobs[i]? with
  | some (.attempting a false) => s.askEndpoint i a
  | some (.attempting a true) => s.endAttempt i a (.ok (client a.chain))
  | some (.activating stage none) =>
    { s with provider := Activation.begin s.provider }.goOn i stage
  | some (.activating stage (some e)) =>
    let (s, stage) := s.answer stage e
    s.goOn i stage
  | _ => s

/-- The scenario after every job in the queue has gone on. -/
def settle (s : Scenario) : Scenario := s.queue.foldl resume { s with queue := [] }

/-- The scenario with new jobs at the end of the queue, and their numbers. -/
def spawn (s : Scenario) (jobs : List Job) : Scenario × List Nat :=
  let numbers := List.range' s.jobs.length jobs.length
  ({ s with jobs := s.jobs ++ jobs, queue := s.queue ++ numbers }, numbers)

/-! ### Waiting -/

/-- A number that the times at which timers fire do not exceed. -/
def jumps (s : Scenario) : Nat := s.timers.length + s.jobs.length * s.questions + 1

/-- The scenario at a time, with a bound on the number of jumps. What happens before that
time has been settled; what happens at that time has not. -/
def passUntil (time : Nat) : Nat → Scenario → Scenario
  | 0, s => s.jump time
  | bound + 1, s =>
    let s := s.settle
    match s.timers with
    | [] => s.jump time
    | t :: _ =>
      if t.deadline < time then passUntil time bound (s.jump t.deadline) else s.jump time

/-- The scenario after somebody outside has waited. -/
def wait (s : Scenario) (ms : Nat) : Scenario :=
  if ms = 0 then s else passUntil (s.now + ms) s.jumps s

/-- The scenario after the clock was advanced. -/
def advance (s : Scenario) (ms : Nat) : Scenario := s.jump (s.now + ms)

/-! ### What can be done from outside -/

/-- Mounting: an attempt for each supported chain. -/
def mount (s : Scenario) : Scenario × List Nat :=
  s.spawn ((Provider.attempts s.provider.config).map fun a => .attempting a false)

/-- An activation that is a job. -/
def startActivation (s : Scenario) : Scenario × List Nat :=
  s.spawn [.activating .enabling none]

/-- Whether some jobs have ended. -/
def areFinished (s : Scenario) (jobs : List Nat) : Bool :=
  jobs.all fun i => (s.jobs[i]?.map Job.isFinished).getD true

/-- The statuses with which attempts have ended. -/
def statuses (s : Scenario) (jobs : List Nat) : List (String × ApiStatus) :=
  jobs.filterMap fun i => s.jobs[i]?.bind Job.status?

/-- The longest time to wait for attempts. -/
def patience : Nat := 3600000

/-- The scenario when some jobs have ended, and whether they have, with a time to stop at and
a bound on the number of jumps. -/
def joinUntil (time : Nat) (jobs : List Nat) : Nat → Scenario → Scenario × Bool
  | 0, s => (s.jump time, false)
  | bound + 1, s =>
    let s := s.settle
    if s.areFinished jobs then (s, true)
    else
      match s.timers with
      | [] => (s.jump time, false)
      | t :: _ =>
        if t.deadline < time then joinUntil time jobs bound (s.jump t.deadline)
        else (s.jump time, false)

/-- A wait for attempts: their statuses, unless it takes too long. -/
def join (s : Scenario) (jobs : List Nat) : Scenario × Option (List (String × ApiStatus)) :=
  match joinUntil (s.now + patience) jobs s.jumps s with
  | (s, true) => (s, some (s.statuses jobs))
  | (s, false) => (s, none)

/-- The scenario after jobs were cancelled. Those that have ended stay as they are. -/
def abort (s : Scenario) (jobs : List Nat) : Scenario :=
  let pending := jobs.filter fun i => !s.areFinished [i]
  { s with
    jobs := pending.foldl (fun l i => l.set i .cancelled) s.jobs
    timers := s.timers.filter fun t => !pending.contains t.job }

/-- The rest of an activation that somebody outside waits for, with a bound on the number of
answers. -/
def finishActivation : Nat → Scenario → Activation → Scenario × List GrantedExtension
  | _, s, .done granted => (s, granted)
  | 0, s, _ => (s, [])
  | bound + 1, s, stage =>
    let e := s.current
    let (s, stage) := (s.wait (s.delay e)).answer stage e
    finishActivation bound s stage

/-- An activation that somebody outside waits for. -/
def activate (s : Scenario) : Scenario × List GrantedExtension :=
  finishActivation s.questions { s with provider := Activation.begin s.provider } .enabling

/-- A request for the signer that holds an address. -/
def getSigner (s : Scenario) (address : String) :
    Scenario × Except ExtensionError Signer :=
  let e := s.current
  let (s, access) := (s.wait (s.delay e)).enable e
  match access with
  | .error error => (s, .error error)
  | .ok _ =>
    let e := s.current
    let s := s.wait (s.delay e)
    match s.extensions[e]? with
    | none => (s, .error .notInstalled)
    | some extension => (s, extension.signerFor address)

/-- A request for the accounts in an address format. -/
def listAccounts (s : Scenario) (format : BitVec 16) :
    Scenario × Except ExtensionError (List ListedAccount) :=
  let e := s.current
  let s := s.wait (s.delay e)
  (s, s.list e format)

/-- The scenario with another extension in place. -/
def setExtension (s : Scenario) (e : ScriptedExtension) : Scenario :=
  { s with extensions := s.extensions ++ [e] }

end Scenario

end Extrinsics
