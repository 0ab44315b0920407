import Extrinsics.Number.Shortest
import Extrinsics.Telemetry.Metric
import Extrinsics.Telemetry.Series

/-!
# Prometheus collectors

The collectors count metric events once they are installed. Every labelled collector is a
family of series. The status of a chain is shown by three gauges, of which the one for the
present status is one and the others are zero.
-/

namespace Extrinsics.Prometheus

/-! ### Collectors -/

/-- The upper bounds of the buckets for durations, in seconds: ten bounds from one half on,
each twice the one before. -/
def bounds : List Binary64 := (List.range 10).map fun i => .ofRatio false (1 <<< i) 2

/-- The distribution of durations: for each bound the number of durations up to it, and the
number and the sum of all durations. -/
structure Histogram where
  buckets : List Nat
  count : Nat
  sum : Binary64
deriving DecidableEq

namespace Histogram

/-- The distribution of no durations. -/
def empty : Histogram := ⟨bounds.map fun _ => 0, 0, .zero⟩

/-- The distribution with one more duration. -/
def observe (h : Histogram) (x : Binary64) : Histogram where
  buckets := (h.buckets.zip bounds).map fun b => if x.le b.2 then b.1 + 1 else b.1
  count := h.count + 1
  sum := h.sum.add x

end Histogram

/-- The values of all collectors. -/
structure Collectors where
  submitted : Family
  recordsCreated : Nat
  terminal : Family
  lifecycle : Histogram
  /-- The gauges, by chain and status. -/
  apiStatus : Family
  activations : Family
  /-- The counters of errors, by kind and code. -/
  errors : Family
deriving DecidableEq

/-- The statuses that a chain has gauges for. -/
def apiStatuses : List String := ["initializing", "connected", "failed"]

/-- The gauges after a chain has got a status. -/
def setStatus (gauges : Family) (chain status : String) : Family :=
  apiStatuses.foldl (fun f s => f.set [chain, s] (if s = status then 1 else 0)) gauges

namespace Collectors

/-- The collectors before the first event. -/
def empty : Collectors := ⟨.empty, 0, .empty, .empty, .empty, .empty, .empty⟩

/-- The collectors after an event. -/
def record (c : Collectors) : Metric Binary64 → Collectors
  | .submitted kind => { c with submitted := c.submitted.increment [kind] }
  | .recordCreated => { c with recordsCreated := c.recordsCreated + 1 }
  | .terminal status => { c with terminal := c.terminal.increment [status] }
  | .lifecycle x => { c with lifecycle := c.lifecycle.observe x }
  | .apiStatus chain status => { c with apiStatus := setStatus c.apiStatus chain status }
  | .activation outcome => { c with activations := c.activations.increment [outcome] }
  | .error kind code => { c with errors := c.errors.increment [kind, code] }

end Collectors

/-! ### Installation -/

/-- What a process exports: its collectors, if they are installed, and whether events that are
reported to the process as a whole go to them. -/
structure Exporter where
  collectors : Option Collectors
  isGlobal : Bool
deriving DecidableEq

namespace Exporter

/-- The exporter without collectors. -/
def start : Exporter := ⟨none, false⟩

/-- The exporter after an event was reported to the collectors. -/
def record (p : Exporter) (m : Metric Binary64) : Exporter :=
  { p with collectors := p.collectors.map fun c => c.record m }

/-- The exporter after an event was reported to the process as a whole. -/
def recordGlobal (p : Exporter) (m : Metric Binary64) : Exporter :=
  if p.isGlobal then p.record m else p

/-- The message of a second installation. -/
def duplicate : String := "Duplicate metrics collector registration attempted"

/-- An attempt to install the collectors, for the process as a whole or not. -/
def install (p : Exporter) (isGlobal : Bool) : Exporter × Except String Unit :=
  match p.collectors with
  | none => (⟨some .empty, p.isGlobal || isGlobal⟩, .ok ())
  | some _ => (p, .error duplicate)

end Exporter

/-! ### Exposition -/

/-- The type of the exposition text. -/
def contentType : String := "text/plain; version=0.0.4"

/-- One character of the value of a label. -/
def escape (c : Char) : List Char :=
  if c = '\\' then ['\\', '\\']
  else if c = '\n' then ['\\', 'n']
  else if c = '"' then ['\\', '"']
  else [c]

/-- A label with its value. -/
def labelText (name value : String) : String :=
  name ++ "=\"" ++ String.ofList (value.toList.flatMap escape) ++ "\""

/-- A line with the value of a series. -/
def sample (name : String) (labels : List (String × String)) (value : String) : String :=
  let list := String.intercalate "," (labels.map fun l => labelText l.1 l.2)
  let braced := if labels.isEmpty then "" else "\x7b" ++ list ++ "\x7d"
  name ++ braced ++ " " ++ value ++ "\n"

/-- The lines of a collector, which is left out if it has no series. -/
def lines (name help type : String) (samples : List String) : String :=
  if samples.isEmpty then ""
  else "# HELP " ++ name ++ " " ++ help ++ "\n# TYPE " ++ name ++ " " ++ type ++ "\n"
    ++ String.join samples

/-- The lines of a family of series, given the names of their labels. -/
def family (name help type : String) (labels : List String) (f : Family) : String :=
  lines name help type
    (f.series.map fun s => sample name (labels.zip s.labels) (toString s.value))

/-- The lines of a histogram. -/
def histogram (name help : String) (h : Histogram) : String :=
  let bucket (bound : String) (n : Nat) : String :=
    sample (name ++ "_bucket") [("le", bound)] (toString n)
  lines name help "histogram"
    ((bounds.zip h.buckets).map (fun b => bucket b.1.positionalText b.2)
      ++ [bucket "+Inf" h.count, sample (name ++ "_sum") [] h.sum.positionalText,
        sample (name ++ "_count") [] (toString h.count)])

/-- The exposition text of the collectors, in the order of their names. -/
def Collectors.expose (c : Collectors) : String :=
  family "extrack_chain_api_status"
      "Current API status of each chain (1 if active, 0 otherwise)." "gauge"
      ["chain", "status"] c.apiStatus
    ++ family "extrack_errors_total"
      "Total number of errors, categorized by type and variant." "counter"
      ["kind", "variant"] c.errors
    ++ family "extrack_extension_activations_total"
      "Total extension activations, labeled by resulting status." "counter"
      ["outcome"] c.activations
    ++ histogram "extrack_extrinsic_lifecycle_seconds"
      "Time from the ready transition to a terminal status." c.lifecycle
    ++ lines "extrack_extrinsic_records_created_total"
      "Total transaction records created on the ready transition." "counter"
      [sample "extrack_extrinsic_records_created_total" [] (toString c.recordsCreated)]
    ++ family "extrack_extrinsics_submitted_total"
      "Total extrinsics handed to the chain client." "counter"
      ["kind"] c.submitted
    ++ family "extrack_extrinsics_terminal_total"
      "Total extrinsics that reached a terminal status." "counter"
      ["status"] c.terminal

/-- The exposition text of an exporter, empty without collectors. -/
def Exporter.expose (p : Exporter) : String :=
  (p.collectors.map Collectors.expose).getD ""

end Extrinsics.Prometheus
