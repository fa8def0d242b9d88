import AgentProxy.Lib.Run
import AgentProxy.Core.Types
import AgentProxy.Router.Health
import AgentProxy.Storage.Seed
import AgentProxy.Router.HealthFeedback
import AgentProxy.Bridge.Exchange
import AgentProxy.Server.Sse
import AgentProxy.Report.Consume
import AgentProxy.Resilience.Probes
import AgentProxy.Resilience.RateLimiter
import AgentProxy.Server.Aliases
import AgentProxy.Server.Auth
import AgentProxy.Server.Framing
import AgentProxy.Server.Gate
import AgentProxy.Server.TransportErrors
import AgentProxy.Cost.Record
import AgentProxy.Server.Compress
import AgentProxy.Server.Forward
import AgentProxy.Server.Handler
import AgentProxy.Bridge.Acceptance
import AgentProxy.Server.Bookkeeping
import AgentProxy.Cost.Savings
import AgentProxy.Cost.CachedTokens
import AgentProxy.Cost.WireFormats
import AgentProxy.Cost.Tiers
import AgentProxy.Cost.FreeUsage
import AgentProxy.Cost.Snapshot
import AgentProxy.Cost.Counters
import AgentProxy.Cost.QuotaAgreement
import AgentProxy.Cost.ResponseSavings
import AgentProxy.Report.Concurrent
import AgentProxy.Report.Incremental
import AgentProxy.Report.TornLines
import AgentProxy.Router.QuotaHistory
import AgentProxy.Router.Resolution
import AgentProxy.Router.SelectionOrder
import AgentProxy.Admin.Gate
import AgentProxy.Admin.Keys
import AgentProxy.Admin.Reload
import AgentProxy.Admin.MappingUpdates
import AgentProxy.Admin.PricingErrors
import AgentProxy.Admin.ForceProtocol
import AgentProxy.Router.Interleaving
import AgentProxy.Router.Lockout
import AgentProxy.Router.Cooldown
import AgentProxy.Storage.KeyRetention
import AgentProxy.Storage.SeedSwitches
import AgentProxy.Storage.SeedApplied
import AgentProxy.Storage.Restart
import AgentProxy.Storage.SeedVersion
import AgentProxy.Storage.HealthColumns
import AgentProxy.Admin.HealthSync
import AgentProxy.Admin.CostReports
import AgentProxy.Router.Overshoot
import AgentProxy.Storage.SeedOrderFree
import AgentProxy.Storage.Timestamps
import AgentProxy.Storage.Pruning
import AgentProxy.Admin.ReportRanges
import AgentProxy.Storage.SeedAtomicity
import AgentProxy.Storage.SeedStatus
import AgentProxy.Storage.ChannelRows
import AgentProxy.Storage.CostRows
import AgentProxy.Storage.AvailableChannels
import AgentProxy.Admin.ProbeUrl
import AgentProxy.Server.UsageMerge
import AgentProxy.Server.ResponseHeaders
import AgentProxy.Server.ToolSnapshots
import AgentProxy.Bridge.Stream
import AgentProxy.Router.Accounting
import AgentProxy.Server.Fidelity
import AgentProxy.Server.Ledger
import AgentProxy.Admin.CheapestModel
import AgentProxy.Router.Catalogue
import AgentProxy.Storage.Startup
import AgentProxy.Resilience.Stack
import AgentProxy.Admin.Paging
import AgentProxy.Admin.MappingBackup
import AgentProxy.Server.ReportLedger
