import DollState.Library.Check
import DollState.Library.Run
import DollState.Library.Table
import DollState.Library.ReadProgram
import DollState.Library.Clients
import DollState.Library.Digraph
import DollState.Library.JsonText
import DollState.Library.JsonEncode
import DollState.Library.JsonCanonical
import DollState.Library.SecureHash
import DollState.State.Text
import DollState.State.Identifier
import DollState.State.Record
import DollState.State.CanonicalJson
import DollState.State.Database
import DollState.State.Repository
import DollState.State.Reference
import DollState.Sync.System
import DollState.Sync.Invariant
import DollState.Sync.Monotone
import DollState.Sync.Outcome
import DollState.Sync.Opening
import DollState.Domain.Fields
import DollState.Domain.Project
import DollState.Domain.ProjectLinks
import DollState.Domain.ProjectService
import DollState.Domain.ProjectWrites
import DollState.Domain.WorkItem
import DollState.Domain.WorkItemService
import DollState.Domain.WorkItemRecord
import DollState.Domain.WorkItemLinks
import DollState.Domain.WorkItemWrites
import DollState.Domain.WorkItemGraph
import DollState.Domain.WorkItemReaders
import DollState.Domain.Checkpoint
import DollState.Domain.CheckpointService
import DollState.Domain.CheckpointWrites
import DollState.Domain.CheckpointFreshness
import DollState.Domain.Procedure
import DollState.Domain.ReaderErrors
import DollState.Domain.ProjectStatus
import DollState.Domain.StatusErrors
import DollState.Domain.StatusIsolation
import DollState.Domain.StatusLatest
import DollState.Search.LocalSearch
import DollState.Search.Snippets
import DollState.Domain.Experience
import DollState.Domain.ResumeBundle
import DollState.Domain.OneState
import DollState.Domain.BundleExport
import DollState.Concurrency.Calls
import DollState.Concurrency.LostUpdate
import DollState.Concurrency.DependencyCycle
import DollState.Import.Contracts
import DollState.Import.Source
import DollState.Import.Stage
import DollState.Import.Reference
import DollState.Import.Ledger
import DollState.Import.Conservation
import DollState.Import.Formats
import DollState.Import.ParentGraph
import DollState.Import.SearchDepth
import DollState.Import.Progress
import DollState.Import.BatchFits
import DollState.Import.Totality
import DollState.Migration.Migrations
import DollState.Migration.WholeSteps
import DollState.Settings.Values
import DollState.Settings.Records
import DollState.Settings.Service
import DollState.Settings.Writes
import DollState.Settings.Lifecycle
import DollState.Settings.Grants
import DollState.Settings.Resolution
import DollState.Instruction.Origin
import DollState.Domain.SafeFields
import DollState.Capability.Contracts
import DollState.Capability.Requests
import DollState.Capability.Gates
import DollState.Capability.Hosts
import DollState.Audit.Events
import DollState.Capability.Preflight
import DollState.Confirmation.Types
import DollState.Confirmation.Validation
import DollState.Confirmation.Preflight
import DollState.Confirmation.Agreement
import DollState.Confirmation.Binding
import DollState.Confirmation.Service
import DollState.Confirmation.Ledger
import DollState.Confirmation.SingleUse
import DollState.Runtime.Contract
import DollState.Runtime.Boundary
import DollState.Runtime.StreamIsolation
import DollState.Library.Like
import DollState.Model.Fields
import DollState.Model.Records
import DollState.Model.Service
import DollState.Model.Calls
import DollState.Model.Bindings
import DollState.Model.Writes
import DollState.Model.ReadBack
import DollState.Model.Readable
import DollState.Model.Runs
import DollState.Model.Disabled
import DollState.Model.Selectable
import DollState.Library.Script
import DollState.Library.Disturbed
import DollState.Audit.Append
import DollState.Runtime.Generate
import DollState.Model.Switch
import DollState.Model.ActiveScope
import DollState.Model.SwitchSteps
import DollState.Model.SwitchPlan
import DollState.Model.SwitchOutcome
import DollState.Library.Traces
import DollState.Library.Validated
import DollState.Credential.Contract
import DollState.Credential.Store
import DollState.Credential.Broker
import DollState.Credential.Exact
import DollState.Credential.Truthful
import DollState.Credential.Custody
import DollState.Credential.Kept
import DollState.Library.JsonLoads
import DollState.Escape.Archive
import DollState.Escape.Inspector
import DollState.Library.Raises
import DollState.Escape.Failures
import DollState.Escape.Sound
import DollState.Domain.Evidence
import DollState.Domain.EvidenceWrites
import DollState.Domain.ProjectRecord
import DollState.Domain.ExperienceService
import DollState.Domain.WorkItemHistory
import DollState.Domain.ExperienceHistory
import DollState.Library.JsonReread
import DollState.Library.Joined
import DollState.History.Objects
import DollState.History.ChatGPT
import DollState.History.Ollama
import DollState.History.Written
import DollState.History.Identity
import DollState.History.Messages
import DollState.History.Counts
import DollState.Library.JsonReadable
import DollState.Library.Spans
import DollState.Redaction.Detection
import DollState.Redaction.Exact
import DollState.Library.JsonRoundTrip
import DollState.Library.JsonShape
import DollState.Package.Lines
import DollState.Package.Members
import DollState.Package.Inventory
import DollState.Package.Accounting
import DollState.Library.Resolved
import DollState.Import.ParentClosure
import DollState.Library.BackEdges
import DollState.Import.CycleSearch
import DollState.Library.SearchOrder
import DollState.Package.Conversations
import DollState.Domain.CheckpointConfirm
import DollState.Library.Rollback
import DollState.Restore.Folder
import DollState.Restore.Import
import DollState.Restore.ImportProof
import DollState.Restore.Restore
import DollState.Restore.RestoreProof
import DollState.Memory.Records
import DollState.Instruction.Records
import DollState.Instruction.Written
import DollState.Writing.Context
import DollState.Writing.Materialized
import DollState.Conversation.Copies
import DollState.Recall.State
import DollState.LocalCsv.Faithful
import DollState.Continuity.Preflight
import DollState.Library.Moments
import DollState.Recall.Index
import DollState.Recall.IndexScan
import DollState.Concurrency.Transactions
import DollState.Recall.IndexRuns
import DollState.Continuity.History
