import Extrinsics.Config
import Extrinsics.Telemetry.Filter

/-!
# Logs

The log of a process is set up once, by the first initialization. The environment may give a
filter; if it does not, or if its filter has a wrong form, the options give one.
-/

namespace Extrinsics

/-- An event for the log. -/
structure LogEvent where
  level : Level
  target : String
  message : String
  code : Option Nat
deriving DecidableEq

namespace LogEvent

/-- The events with which a log is tried out: one of each level for two targets of the
library, and some from outside it. -/
def trial : List LogEvent :=
  ["executor", "provider"].flatMap (fun target =>
    [⟨.error, target, "e", some 1⟩, ⟨.warn, target, "w", some 2⟩, ⟨.info, target, "i", some 3⟩,
      ⟨.debug, target, "d", some 4⟩, ⟨.trace, target, "t", some 5⟩])
    ++ [⟨.error, "facade", "le", none⟩, ⟨.info, "facade", "li", none⟩,
      ⟨.debug, "facade", "ld", none⟩]

/-- The names of the fields of an event. Those from outside the library tell where they come
from. -/
def fields (e : LogEvent) : List String :=
  match e.code with
  | some _ => ["message", "code"]
  | none => ["message", "log.target", "log.module_path", "log.file", "log.line"]

/-- A line of a plain log, after its time. -/
def plain (e : LogEvent) : String :=
  let title := e.level.title
  let code := match e.code with
    | some n => " code=" ++ toString n
    | none => ""
  String.ofList (List.replicate (5 - title.length) ' ') ++ title ++ " " ++ e.target ++ ": "
    ++ e.message ++ code

/-- The members of a line of a JSON log, without its time. -/
def members (e : LogEvent) : List (String × Json) :=
  [("level", .text e.level.title), ("target", .text e.target), ("message", .text e.message),
    ("code", .ofOption (e.code.map .ofNat))]

end LogEvent

/-- A log that has been set up. -/
structure Log where
  filter : Filter
  json : Bool
deriving DecidableEq

namespace Log

/-- The log for some options, with the filter of the environment if it has one. -/
def ofOptions (environment : Option String) (o : LogOptions) : Log where
  filter := ((environment.bind Filter.parse?).or (Filter.parse? o.defaultFilter)).getD
    (.ofLevel .info)
  json := o.json

/-- The message of a second initialization. -/
def duplicate : String :=
  "attempted to set a logger after the logging system was already initialized"

/-- An attempt to set up the log of a process. -/
def initialise (environment : Option String) (present : Option Log) (o : LogOptions) :
    Option Log × Except String Unit :=
  match present with
  | none => (some (ofOptions environment o), .ok ())
  | some log => (some log, .error duplicate)

/-- The events that are logged, of those given. -/
def enabled (present : Option Log) (events : List LogEvent) : List LogEvent :=
  match present with
  | none => []
  | some log => events.filter fun e => log.filter.enables e.target e.fields e.level

/-- The most verbose level that is logged. -/
def mostVerbose (present : Option Log) : Level :=
  (present.map fun log => log.filter.mostVerbose).getD .off

end Log

end Extrinsics
