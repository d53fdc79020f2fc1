import RelayerExtensions.Dealer.Pairing
import RelayerExtensions.Dealer.Availability
import RelayerExtensions.Auth.Revocation
import RelayerExtensions.Auth.FeeCache
import RelayerExtensions.Auth.RefundBounds
import RelayerExtensions.Auth.RfqtBundle
import RelayerExtensions.Auth.RateKeys
import RelayerExtensions.Auth.RateWindow
import RelayerExtensions.Auth.RateExpiry
import RelayerExtensions.Auth.GasBudget
import RelayerExtensions.Auth.SettlementRefund
import RelayerExtensions.Auth.Stringify
import RelayerExtensions.Auth.QuoteAmount
import RelayerExtensions.Auth.SponsoredBundle
import RelayerExtensions.Auth.BundleHistory
import RelayerExtensions.Prices.Midpoint
import RelayerExtensions.Prices.BookReplica
import RelayerExtensions.Prices.SequenceNumbers
import RelayerExtensions.Prices.RetryReports
import RelayerExtensions.Prices.Feed
import RelayerExtensions.Prices.Topics
import RelayerExtensions.PriceClient.Connected
import RelayerExtensions.PriceClient.Staleness
import RelayerExtensions.Funds.GasGrace
import RelayerExtensions.Funds.GasRace
import RelayerExtensions.Funds.GasStatus
import RelayerExtensions.Funds.Submissions
import RelayerExtensions.Funds.Exclusion
import RelayerExtensions.Funds.MultiSwapReach
import RelayerExtensions.Funds.FireblocksCalls
import RelayerExtensions.PoolRunner.Routing
import RelayerExtensions.Indexer.Redelivery
import RelayerExtensions.Solver.Solve
import RelayerExtensions.Solver.Polling
import RelayerExtensions.Compliance.Server
