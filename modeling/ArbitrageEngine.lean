import ArbitrageEngine.Lib.Runs
import ArbitrageEngine.Lib.Rounding
import ArbitrageEngine.Lib.Effect
import ArbitrageEngine.Lib.Dict
import ArbitrageEngine.Lib.Loops
import ArbitrageEngine.Decimal
import ArbitrageEngine.Models
import ArbitrageEngine.Risk.Controller
import ArbitrageEngine.Risk.DailyLoss
import ArbitrageEngine.Risk.Store
import ArbitrageEngine.Settlement.Intents
import ArbitrageEngine.Settlement.Service
import ArbitrageEngine.Settlement.Invariant
import ArbitrageEngine.Settlement.AtMostOnce
import ArbitrageEngine.Routes
import ArbitrageEngine.Mapping.Join
import ArbitrageEngine.Mapping.Soundness
import ArbitrageEngine.Execution.Orders
import ArbitrageEngine.Execution.ExitLeg
import ArbitrageEngine.Execution.Residual
import ArbitrageEngine.Execution.Exits
import ArbitrageEngine.Execution.PositionManager
import ArbitrageEngine.Execution.SalesLog
import ArbitrageEngine.Execution.Routing
import ArbitrageEngine.Connectors.SxBetV3
import ArbitrageEngine.Execution.Preflight
import ArbitrageEngine.Execution.Authorization
import ArbitrageEngine.Engine.Windows
import ArbitrageEngine.Engine.Selection
import ArbitrageEngine.Execution.Entry
import ArbitrageEngine.Execution.SoldAmounts
import ArbitrageEngine.Execution.UnwindConservation
import ArbitrageEngine.Execution.RouteCoverage
import ArbitrageEngine.Execution.ResidualMerge
import ArbitrageEngine.Reconciliation.StoredResiduals
import ArbitrageEngine.Connectors.SxBetV3Fills
import ArbitrageEngine.Reconciliation.ResidualAgreement
import ArbitrageEngine.Reconciliation.IntentSteps
import ArbitrageEngine.Reconciliation.TerminalIntents
import ArbitrageEngine.Reconciliation.GraceBudget
import ArbitrageEngine.Execution.Balances
import ArbitrageEngine.Execution.SpendableCapital
import ArbitrageEngine.Execution.RiskLimits
import ArbitrageEngine.Execution.SignalHandling
import ArbitrageEngine.Execution.Reservations
import ArbitrageEngine.Execution.ExposureCaps
import ArbitrageEngine.ContextError
import ArbitrageEngine.Fees
import ArbitrageEngine.Execution.PricedPreview
import ArbitrageEngine.Execution.PreflightSoundness
import ArbitrageEngine.Discovery.Registry
import ArbitrageEngine.Connectors.OpinionBooks
import ArbitrageEngine.Connectors.DeltaBooks
import ArbitrageEngine.Connectors.StreamedBooks
import ArbitrageEngine.Connectors.BookVersions
import ArbitrageEngine.Mapping.Lifecycle
import ArbitrageEngine.Engine.MarketTargets
import ArbitrageEngine.Reconciliation.ListedSales
import ArbitrageEngine.DecimalText
import ArbitrageEngine.Lib.JsonText
import ArbitrageEngine.Reconciliation.ExternalBaseline
import ArbitrageEngine.Reconciliation.BaselineStore
import ArbitrageEngine.Connectors.PredictFunTopics
import ArbitrageEngine.Connectors.Web3Nonces
import ArbitrageEngine.Connectors.PredictFunStatus
import ArbitrageEngine.Connectors.TransportGuard
import ArbitrageEngine.Reconciliation.OrderReadings
import ArbitrageEngine.Discovery.Enrichment
import ArbitrageEngine.Discovery.SecondLegs
import ArbitrageEngine.Reconciliation.SafeRetirement
import ArbitrageEngine.Connectors.SxBetBooks
import ArbitrageEngine.Lib.Paging
import ArbitrageEngine.Reconciliation.AccountListings
import ArbitrageEngine.Reconciliation.CompleteListings
import ArbitrageEngine.Execution.BookFills
import ArbitrageEngine.FeeBounds
import ArbitrageEngine.Connectors.SxBetV3Reports
import ArbitrageEngine.Discovery.PagedCatalogues
import ArbitrageEngine.Lib.DigitText
import ArbitrageEngine.Positions.DecimalStr
import ArbitrageEngine.Positions.Codec
import ArbitrageEngine.Execution.UnwindLosses
import ArbitrageEngine.Execution.PartialExits
import ArbitrageEngine.Execution.EntryCutoff
import ArbitrageEngine.Discovery.CrossVenueMarkets
import ArbitrageEngine.Settlement.Addressing
import ArbitrageEngine.Execution.OrderRate
import ArbitrageEngine.Discovery.Deduplication
import ArbitrageEngine.Discovery.SynthesizedOrders
import ArbitrageEngine.Connectors.SxBetV3Books
import ArbitrageEngine.Connectors.KeptLevels
import ArbitrageEngine.Connectors.BookMessages
import ArbitrageEngine.Connectors.FullBookMessages
import ArbitrageEngine.Connectors.OutcomeIsolation
import ArbitrageEngine.Connectors.UnitDecoding
import ArbitrageEngine.ExactFees
import ArbitrageEngine.Execution.SignalSoundness
import ArbitrageEngine.Connectors.LimitOrders
import ArbitrageEngine.Connectors.LimitsKept
import ArbitrageEngine.Connectors.Subscriptions
import ArbitrageEngine.Connectors.RefreshSchedule
import ArbitrageEngine.Mapping.StaleGate
import ArbitrageEngine.Discovery.TitleText
import ArbitrageEngine.Discovery.SportsMatching
import ArbitrageEngine.Discovery.GammaSnapshot
import ArbitrageEngine.Discovery.SnapshotOrder
import ArbitrageEngine.Discovery.SnapshotSearch
import ArbitrageEngine.Discovery.SportsSoundness
import ArbitrageEngine.Discovery.OutcomeTokens
import ArbitrageEngine.Discovery.CollisionSafety
import ArbitrageEngine.Discovery.TitleMatching
import ArbitrageEngine.Connectors.SxBetOrders
import ArbitrageEngine.Reconciliation.SxBetAgreement
import ArbitrageEngine.Audit.ShadowCalibration
import ArbitrageEngine.Lib.JsonDocument
import ArbitrageEngine.Lib.Overwrites
import ArbitrageEngine.LogRedaction
import ArbitrageEngine.Config.Values
import ArbitrageEngine.Config.Records
import ArbitrageEngine.Config.Loading
import ArbitrageEngine.Config.Validation
import ArbitrageEngine.Config.Acceptance
import ArbitrageEngine.Config.AcceptedLimits
import ArbitrageEngine.Audit.ShadowPreflight
import ArbitrageEngine.Audit.LaunchEvidence
import ArbitrageEngine.Connectors.SxBetV3Heartbeat
import ArbitrageEngine.Engine.Evaluation
import ArbitrageEngine.Reconciliation.FillWatermark
