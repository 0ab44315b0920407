import Extrinsics.Account
import Extrinsics.Config
import Extrinsics.Dispatch.Error
import Extrinsics.Dispatch.Registry
import Extrinsics.Dispatch.Scale
import Extrinsics.Failure
import Extrinsics.Format.Json
import Extrinsics.Format.JsonText
import Extrinsics.Format.Mismatch
import Extrinsics.Format.Shape
import Extrinsics.Format.Toml
import Extrinsics.Format.TomlText
import Extrinsics.Format.Tree
import Extrinsics.Hash
import Extrinsics.Network
import Extrinsics.Number.Binary64
import Extrinsics.Number.Shortest
import Extrinsics.Provider.Activation
import Extrinsics.Provider.Basic
import Extrinsics.Provider.Bridge
import Extrinsics.Provider.Scenario
import Extrinsics.Provider.State
import Extrinsics.Record
import Extrinsics.Samples
import Extrinsics.Store.Archive
import Extrinsics.Store.Live
import Extrinsics.Store.Query
import Extrinsics.Store.Snapshot
import Extrinsics.Submission.Feed
import Extrinsics.Submission.Signer
import Extrinsics.Submission.Subscription
import Extrinsics.Submission.Update
import Extrinsics.Table
import Extrinsics.Telemetry.Filter
import Extrinsics.Telemetry.Log
import Extrinsics.Telemetry.Metric
import Extrinsics.Telemetry.Pattern
import Extrinsics.Telemetry.Prometheus
import Extrinsics.Telemetry.Series
import Extrinsics.Telemetry.Timer
import Extrinsics.Text.Alphanumeric
import Extrinsics.Text.Blank
import Extrinsics.Text.Hex
import Extrinsics.Text.Quoted
import Extrinsics.Text.Runs
import Extrinsics.Text.Unprintable
import Extrinsics.Tracking.Executor
import Extrinsics.Tracking.Tracker
import Extrinsics.Proofs.Text.Trim
import Extrinsics.Proofs.Hash
import Extrinsics.Proofs.Store.Replay
import Extrinsics.Proofs.Tracking.Follow
import Extrinsics.Proofs.Tracking.Frame
import Extrinsics.Proofs.Tracking.Run
import Extrinsics.Proofs.Tracking.Origins
import Extrinsics.Proofs.Tracking.Tasks
import Extrinsics.Proofs.Tracking.Trace
import Extrinsics.Proofs.Tracking.Keys
import Extrinsics.Proofs.Tracking.Alike
import Extrinsics.Proofs.Tracking.Alone
import Extrinsics.Proofs.Tracking.Independence
import Extrinsics.Proofs.Tracking.Finality
import Extrinsics.Proofs.Tracking.Orderly
import Extrinsics.Proofs.Tracking.Snapshots
import Extrinsics.Proofs.Store.Query
import Extrinsics.Proofs.Store.Arrivals
import Extrinsics.Proofs.Tracking.Pending
import Extrinsics.Proofs.Tracking.Blocks
import Extrinsics.Proofs.Provider.Access
import Extrinsics.Proofs.Provider.Mounting
import Extrinsics.Proofs.Provider.Deactivation
import Extrinsics.Proofs.Provider.Connections
import Extrinsics.Proofs.Store.Memo
import Extrinsics.Proofs.Dispatch.Scale
import Extrinsics.Proofs.Tracking.Interruption
import Extrinsics.Proofs.Tracking.Alongside
import Extrinsics.Proofs.Tracking.Containment
import Extrinsics.Proofs.Tracking.Outcomes
import Extrinsics.Proofs.Tracking.Metrics
import Extrinsics.Proofs.Tracking.Conservation
import Extrinsics.Proofs.Submission.Delivery
import Extrinsics.Proofs.Submission.Attachment
import Extrinsics.Proofs.Submission.Teardown
import Extrinsics.Proofs.Store.Sharing
import Extrinsics.Proofs.Text.Octets
import Extrinsics.Proofs.Store.Oldest
import Extrinsics.Proofs.Telemetry.Series
import Extrinsics.Proofs.Provider.Gauges
import Extrinsics.Proofs.Lists
import Extrinsics.Proofs.Dispatch.Registry
import Extrinsics.Proofs.Provider.Acceptance
import Extrinsics.Proofs.Provider.Discovery
import Extrinsics.Proofs.Provider.Attempts
import Extrinsics.Proofs.Provider.Joining
import Extrinsics.Proofs.Steps
import Extrinsics.Proofs.Table
import Extrinsics.Proofs.Dispatch.Text
import Extrinsics.Proofs.Tracking.Messages
import Extrinsics.Proofs.Format.Tree
import Extrinsics.Proofs.Format.JsonText
import Extrinsics.Proofs.Format.JsonDocument
import Extrinsics.Proofs.Dispatch.Document
import Extrinsics.Proofs.Format.Shape
import Extrinsics.Proofs.Format.Records
import Extrinsics.Proofs.Telemetry.Counting
