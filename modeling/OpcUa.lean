import OpcUa.Json.Reader
import OpcUa.Json.Writer
import OpcUa.Text.Blank
import OpcUa.Text.Numeral
import OpcUa.Text.Base64
import OpcUa.Text.Guid
import OpcUa.Text.Layout
import OpcUa.Time.Duration
import OpcUa.Time.Timestamp
import OpcUa.Time.Spelling
import OpcUa.Text.Quoted
import OpcUa.Error.Basic
import OpcUa.NodeId.Parser
import OpcUa.NodeId.Codec
import OpcUa.Variant.Basic
import OpcUa.Variant.Codec
import OpcUa.Attribute
import OpcUa.Endpoint
import OpcUa.Config.Basic
import OpcUa.Config.Codec
import OpcUa.Service.Basic
import OpcUa.Service.Notification
import OpcUa.Service.Message
import OpcUa.Service.Blank
import OpcUa.Session.State
import OpcUa.Session.Driver
import OpcUa.Session.Wait
import OpcUa.Client.Exchange
import OpcUa.Client.Call
import OpcUa.Client.SessionTask
import OpcUa.Table
import OpcUa.Subscription.SequenceNumber
import OpcUa.Subscription.Parameters
import OpcUa.Subscription.Statistics
import OpcUa.Subscription.Acknowledgements
import OpcUa.Subscription.Item
import OpcUa.Subscription.Basic
import OpcUa.Subscription.Manager
import OpcUa.Subscription.Dispatch
import OpcUa.Subscription.Publishing
import OpcUa.Subscription.Sequencing
import OpcUa.Subscription.Operation
import OpcUa.Subscription.Workers
import OpcUa.Client.Basic
import OpcUa.Client.Recovery
import OpcUa.Client.Publishing
import OpcUa.Client.Application
import OpcUa.Client.Poll
import OpcUa.WorkQueue
import OpcUa.Simulation.QueueScript
import OpcUa.Simulation.Host
import OpcUa.Simulation.ScriptedServer
import OpcUa.Simulation.Outcome
import OpcUa.Simulation.Scenario
import OpcUa.Description.Scenario
import OpcUa.Report.Scenario
import OpcUa.Simulation.Sample
import OpcUa.Simulation.RecordingServer
import OpcUa.Simulation.Bench
import OpcUa.Description.Bench
import OpcUa.Report.Bench
import OpcUa.Proofs.SequenceCircle
import OpcUa.Proofs.CircularOrder
import OpcUa.Proofs.Run
import OpcUa.Proofs.Bookkeeping
import OpcUa.Proofs.ManagerStep
import OpcUa.Proofs.QueueStep
import OpcUa.Proofs.RecoveryLog
import OpcUa.Proofs.RecoveryScript
import OpcUa.Proofs.Sequencing
import OpcUa.Proofs.RecoveryCourse
import OpcUa.Proofs.Cursor
import OpcUa.Proofs.GapRecovery
import OpcUa.Proofs.ExactlyOnce
import OpcUa.Proofs.Acknowledging
import OpcUa.Proofs.Reissue
import OpcUa.Proofs.SessionRun
import OpcUa.Proofs.RecoveryShutdown
import OpcUa.Proofs.SessionSide
import OpcUa.Proofs.SessionCallers
import OpcUa.Proofs.SessionTurn
import OpcUa.Proofs.SessionEpoch
import OpcUa.Proofs.SessionPromise
import OpcUa.Proofs.SessionKeys
import OpcUa.Proofs.SessionRelease
import OpcUa.Proofs.Disconnecting
import OpcUa.Proofs.SessionFaults
import OpcUa.Proofs.CallCourse
import OpcUa.Proofs.SessionValidity
import OpcUa.Proofs.SessionRequests
import OpcUa.Proofs.NextSession
import OpcUa.Proofs.PublishPipeline
import OpcUa.Proofs.PipelineInterleaving
import OpcUa.Proofs.QueueInterleaving
import OpcUa.Proofs.Arrivals
import OpcUa.Proofs.HeldQueues
import OpcUa.Proofs.Reordering
import OpcUa.Proofs.Solo
import OpcUa.Proofs.Independence
import OpcUa.Proofs.Deletion
import OpcUa.Proofs.RecoveryWalk
import OpcUa.Proofs.DeliveryCourse
import OpcUa.Proofs.ParameterUpdates
import OpcUa.Proofs.ItemHandles
import OpcUa.Proofs.ItemCourse
import OpcUa.Proofs.FirstMessages
import OpcUa.Proofs.FailedOperations
import OpcUa.Proofs.AcknowledgementStep
import OpcUa.Proofs.AcknowledgementCourse
import OpcUa.Proofs.ItemTables
import OpcUa.Proofs.DeletedItems
import OpcUa.Proofs.DurationRange
import OpcUa.Proofs.ServerDurations
import OpcUa.Proofs.TextForms
import OpcUa.Proofs.NodeIdText
import OpcUa.Proofs.Dispatching
import OpcUa.Proofs.OperationTurn
import OpcUa.Proofs.ItemResults
import OpcUa.Proofs.HandleAccount
import OpcUa.Proofs.CreatedItems
import OpcUa.Proofs.RemovedItems
import OpcUa.Proofs.TextGrammar
import OpcUa.Proofs.NodeIdGrammar
import OpcUa.Proofs.JsonText
import OpcUa.Proofs.DurationText
import OpcUa.Proofs.ConfigText
import OpcUa.Proofs.SubscriptionAccount
import OpcUa.Proofs.HandleOperations
