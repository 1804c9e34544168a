import ClusterManager.Lib.Coroutine
import ClusterManager.Lib.Interleaving
import ClusterManager.Lib.Table
import ClusterManager.Text
import ClusterManager.Info.Verbs
import ClusterManager.Info.Grammar
import ClusterManager.Errors
import ClusterManager.Secrets
import ClusterManager.Json
import ClusterManager.Db.Base
import ClusterManager.Db.Tables
import ClusterManager.Db.Requests
import ClusterManager.Db.Sqlite
import ClusterManager.Db.SqliteAtomic
import ClusterManager.Db.SqliteSerial
import ClusterManager.Db.PasswordMigration
import ClusterManager.Db.LostUpdate
import ClusterManager.Db.SqliteReads
import ClusterManager.Db.Postgres
import ClusterManager.Db.PostgresMigration
import ClusterManager.Lib.Hands
import ClusterManager.Lib.KeyedLocks
import ClusterManager.Services.InfoCache
import ClusterManager.Services.Connections
import ClusterManager.Services.Orphans
import ClusterManager.WorkspaceAcl
import ClusterManager.Services.Gates
import ClusterManager.Clients.Manager
import ClusterManager.Clients.Ownership
import ClusterManager.Clients.Cancellation
import ClusterManager.Clients.Eviction
import ClusterManager.Clients.Freshness
import ClusterManager.K8s.CustomResource
import ClusterManager.K8s.Patch
import ClusterManager.K8s.PatchSafe
import ClusterManager.K8s.Requests
import ClusterManager.K8s.Service
import ClusterManager.K8s.Clusters
import ClusterManager.K8s.Access
import ClusterManager.K8s.Association
import ClusterManager.K8s.Lists
import ClusterManager.K8s.Create
import ClusterManager.K8s.Labels
import ClusterManager.Events.Broker
import ClusterManager.Events.Stream
import ClusterManager.Events.System
import ClusterManager.Events.Isolation
import ClusterManager.Lib.Trace
import ClusterManager.Events.Delivery
import ClusterManager.Events.Tickets
import ClusterManager.K8s.Spec
import ClusterManager.K8s.Update
import ClusterManager.K8s.AccessControl
import ClusterManager.RateLimit.IpAddress
import ClusterManager.RateLimit.ClientIp
import ClusterManager.RateLimit.UiProxy
import ClusterManager.Info.Execute
import ClusterManager.Oidc.JwksCache
import ClusterManager.Oidc.Staleness
import ClusterManager.Lib.Schema
import ClusterManager.Db.SqliteSchema
import ClusterManager.Db.SqliteMigration
import ClusterManager.Ui.SubscribeEvents
import ClusterManager.Ui.Backoff
import ClusterManager.Lib.Numerals
import ClusterManager.Lib.Delimited
import ClusterManager.Lib.Decimals
import ClusterManager.Info.Names
import ClusterManager.Info.Frames
import ClusterManager.Records.Pk
import ClusterManager.Records.Converters
import ClusterManager.Records.Notes
import ClusterManager.Records.Expressions
import ClusterManager.Records.Queries
import ClusterManager.Records.FilteredReads
import ClusterManager.Oidc.Verify
import ClusterManager.Oidc.AuthErrors
import ClusterManager.K8s.Templates
import ClusterManager.Targets.InetAton
import ClusterManager.Targets.Policy
import ClusterManager.Targets.Texts
import ClusterManager.Targets.Spellings
import ClusterManager.Targets.Coverage
import ClusterManager.K8s.Quantity
import ClusterManager.K8s.Build
import ClusterManager.K8s.Sizing
import ClusterManager.K8s.Leaves
import ClusterManager.K8s.PodSpec
import ClusterManager.Lib.Grouping
import ClusterManager.Info.Parser
import ClusterManager.Info.Aggregate
import ClusterManager.Services.Clusters
import ClusterManager.Services.ObjectCounts
import ClusterManager.Records.Pages
import ClusterManager.Records.Numbers
import ClusterManager.Records.FilterErrors
import ClusterManager.Records.FilterMeaning
import ClusterManager.K8s.Migration
import ClusterManager.K8s.Drift
import ClusterManager.K8s.Autoscaler
import ClusterManager.K8s.TemplateSpec
import ClusterManager.Db.Validation
import ClusterManager.Services.PartialUpdates
import ClusterManager.Lib.JsonText
import ClusterManager.Lib.Matched
import ClusterManager.Db.Backend
import ClusterManager.Db.SqliteApi
import ClusterManager.Db.PostgresApi
import ClusterManager.Db.SameRows
import ClusterManager.Db.Agreement
import ClusterManager.Db.BackendRuns
import ClusterManager.Lib.FixedWindow
import ClusterManager.Ui.CopilotRateLimit
import ClusterManager.Info.RoundTrip
import ClusterManager.Records.Conversion
import ClusterManager.Services.NodeEndpoints
import ClusterManager.Lib.Machine
import ClusterManager.Middleware.RunCancellable
import ClusterManager.Ui.UseCluster
import ClusterManager.Ui.SharedFetch
import ClusterManager.Ui.UseConnections
import ClusterManager.Ui.ClusterRows
import ClusterManager.Ui.Hydration
import ClusterManager.Records.Crud
import ClusterManager.Ui.CreateForm
import ClusterManager.Ui.CreateWizard
import ClusterManager.Ui.RecordEditor
import ClusterManager.Ui.ApiFetch
import ClusterManager.K8s.Export
import ClusterManager.K8s.Hpa
import ClusterManager.Logs.Masking
import ClusterManager.Ui.RecordFilters
import ClusterManager.Ui.RecordBrowser
