/-!
# Metrics

The events that the library reports about its work, for sinks that count them.
-/

namespace Extrinsics

/-- A metric event. Durations are of the type `δ`, which is `Unit` where they are not
measured. -/
inductive Metric (δ : Type) where
  /-- A call was handed to the chain client. -/
  | submitted (kind : String)
  /-- A record was created. -/
  | recordCreated
  /-- An extrinsic reached a terminal status. -/
  | terminal (status : String)
  /-- The time from the creation of a record to the end of its tracking. -/
  | lifecycle (duration : δ)
  /-- The status of a chain's connection was set. -/
  | apiStatus (chain status : String)
  /-- The extension was activated, with an outcome. -/
  | activation (outcome : String)
  /-- An error occurred in a part of the library. -/
  | error (kind code : String)
deriving DecidableEq

/-- The name of a metric event and its labels. -/
def Metric.words {δ : Type} : Metric δ → List String
  | submitted kind => ["submitted", kind]
  | recordCreated => ["records_created"]
  | terminal status => ["terminal", status]
  | lifecycle _ => ["lifecycle"]
  | apiStatus chain status => ["api_status", chain, status]
  | activation outcome => ["activation", outcome]
  | error kind code => ["error", kind, code]

end Extrinsics
