import Archisynapse.Analytics.Store
import Archisynapse.Audit.Operations
import Archisynapse.Audit.Storage
import Archisynapse.Base.Apportion
import Archisynapse.Base.Base64
import Archisynapse.Base.Digits
import Archisynapse.Base.Exec
import Archisynapse.Base.Floats
import Archisynapse.Base.Guarded
import Archisynapse.Base.HashChain
import Archisynapse.Base.History
import Archisynapse.Base.IsoTime
import Archisynapse.Base.Json
import Archisynapse.Base.JsonLoads
import Archisynapse.Base.KeepFirst
import Archisynapse.Base.Machine
import Archisynapse.Base.Paging
import Archisynapse.Base.Prog
import Archisynapse.Base.Runs
import Archisynapse.Base.Sums
import Archisynapse.Base.Twins
import Archisynapse.Base.Values
import Archisynapse.Commerce.Execute
import Archisynapse.Commerce.Store
import Archisynapse.Commerce.Types
import Archisynapse.Contracts.Api
import Archisynapse.Contracts.Fable
import Archisynapse.Contracts.Store
import Archisynapse.EconomicTruth.Bridge
import Archisynapse.Fraud.Risk
import Archisynapse.Fraud.SpineReceiver
import Archisynapse.Gateway.Orchestrator
import Archisynapse.Gateway.Payments
import Archisynapse.Gateway.Receipts
import Archisynapse.Gateway.Services
import Archisynapse.Gateway.Store
import Archisynapse.Gateway.Types
import Archisynapse.Guarantees.AgentOutcomes
import Archisynapse.Guarantees.Audit
import Archisynapse.Guarantees.Commerce
import Archisynapse.Guarantees.Deliveries
import Archisynapse.Guarantees.EconomicTruth
import Archisynapse.Guarantees.Fable
import Archisynapse.Guarantees.FraudRisk
import Archisynapse.Guarantees.Gateway
import Archisynapse.Guarantees.Ledger
import Archisynapse.Guarantees.LedgerRuns
import Archisynapse.Guarantees.Merchants
import Archisynapse.Guarantees.MinorUnits
import Archisynapse.Guarantees.Payables
import Archisynapse.Guarantees.Payments
import Archisynapse.Guarantees.PaymentsBooks
import Archisynapse.Guarantees.PaymentsListing
import Archisynapse.Guarantees.PaymentsPosting
import Archisynapse.Guarantees.PaymentsRetry
import Archisynapse.Guarantees.ReceiptProof
import Archisynapse.Guarantees.Recovery
import Archisynapse.Guarantees.Reputation
import Archisynapse.Guarantees.Royalty
import Archisynapse.Guarantees.RoyaltyEngines
import Archisynapse.Guarantees.RoyaltyGateway
import Archisynapse.Guarantees.RoyaltyGatewayKeys
import Archisynapse.Guarantees.RoyaltyGatewayMoney
import Archisynapse.Guarantees.RoyaltyGatewayStable
import Archisynapse.Guarantees.RoyaltyJournal
import Archisynapse.Guarantees.ServiceAuth
import Archisynapse.Guarantees.SpineReceiver
import Archisynapse.Guarantees.TenantRole
import Archisynapse.Guarantees.TokenSpendControls
import Archisynapse.Guarantees.TokenSpendRoutes
import Archisynapse.Guarantees.TokenSpendTimes
import Archisynapse.Ledger.Api
import Archisynapse.Ledger.Database
import Archisynapse.Ledger.Service
import Archisynapse.Ledger.Types
import Archisynapse.Lemmas.AgentOutcomes
import Archisynapse.Lemmas.Audit
import Archisynapse.Lemmas.CommerceBudget
import Archisynapse.Lemmas.CommerceChanges
import Archisynapse.Lemmas.CommerceExecute
import Archisynapse.Lemmas.CommercePayments
import Archisynapse.Lemmas.CommerceRecovery
import Archisynapse.Lemmas.CommerceRevocation
import Archisynapse.Lemmas.CommerceSessions
import Archisynapse.Lemmas.CommerceStore
import Archisynapse.Lemmas.EconomicTruth
import Archisynapse.Lemmas.EconomicTruthPrograms
import Archisynapse.Lemmas.Fable
import Archisynapse.Lemmas.FraudRisk
import Archisynapse.Lemmas.GatewayRetry
import Archisynapse.Lemmas.GatewayRuns
import Archisynapse.Lemmas.GatewayStore
import Archisynapse.Lemmas.IsoTime
import Archisynapse.Lemmas.JsonLoads
import Archisynapse.Lemmas.JsonText
import Archisynapse.Lemmas.LedgerApi
import Archisynapse.Lemmas.LedgerBooks
import Archisynapse.Lemmas.LedgerCalls
import Archisynapse.Lemmas.LedgerContract
import Archisynapse.Lemmas.LedgerIdempotency
import Archisynapse.Lemmas.LedgerPosting
import Archisynapse.Lemmas.LedgerRuns
import Archisynapse.Lemmas.LedgerState
import Archisynapse.Lemmas.Merchants
import Archisynapse.Lemmas.MerchantsPrograms
import Archisynapse.Lemmas.MerchantsTransactions
import Archisynapse.Lemmas.MinorUnits
import Archisynapse.Lemmas.Payables
import Archisynapse.Lemmas.PaymentsAmounts
import Archisynapse.Lemmas.PaymentsBooks
import Archisynapse.Lemmas.PaymentsCalls
import Archisynapse.Lemmas.PaymentsCharges
import Archisynapse.Lemmas.PaymentsCreate
import Archisynapse.Lemmas.PaymentsFailed
import Archisynapse.Lemmas.PaymentsPhases
import Archisynapse.Lemmas.PaymentsPrograms
import Archisynapse.Lemmas.PaymentsRecords
import Archisynapse.Lemmas.PaymentsRefundEffect
import Archisynapse.Lemmas.PaymentsRefundKeys
import Archisynapse.Lemmas.PaymentsRefunds
import Archisynapse.Lemmas.PaymentsRetry
import Archisynapse.Lemmas.PaymentsRuns
import Archisynapse.Lemmas.PaymentsSteps
import Archisynapse.Lemmas.ReceiptProof
import Archisynapse.Lemmas.Receipts
import Archisynapse.Lemmas.Recovery
import Archisynapse.Lemmas.RecoveryQueue
import Archisynapse.Lemmas.Reputation
import Archisynapse.Lemmas.Revenue
import Archisynapse.Lemmas.RoyaltyCalls
import Archisynapse.Lemmas.RoyaltyEngines
import Archisynapse.Lemmas.RoyaltyGatewayBalance
import Archisynapse.Lemmas.RoyaltyGatewayCalls
import Archisynapse.Lemmas.RoyaltyGatewayDecision
import Archisynapse.Lemmas.RoyaltyGatewayGate
import Archisynapse.Lemmas.RoyaltyGatewayKeys
import Archisynapse.Lemmas.RoyaltyGatewayMoney
import Archisynapse.Lemmas.RoyaltyGatewaySignatures
import Archisynapse.Lemmas.RoyaltyGatewayStable
import Archisynapse.Lemmas.RoyaltyGatewayStore
import Archisynapse.Lemmas.RoyaltyHistory
import Archisynapse.Lemmas.RoyaltyJournal
import Archisynapse.Lemmas.RoyaltyMaps
import Archisynapse.Lemmas.RoyaltyMoney
import Archisynapse.Lemmas.RoyaltyPrograms
import Archisynapse.Lemmas.RoyaltyRecords
import Archisynapse.Lemmas.RoyaltyRuns
import Archisynapse.Lemmas.RoyaltyState
import Archisynapse.Lemmas.RoyaltyTwins
import Archisynapse.Lemmas.ServiceAuth
import Archisynapse.Lemmas.Services
import Archisynapse.Lemmas.SpineReceiver
import Archisynapse.Lemmas.TenantRole
import Archisynapse.Lemmas.TokenSpendAllowlist
import Archisynapse.Lemmas.TokenSpendBudget
import Archisynapse.Lemmas.TokenSpendRoutes
import Archisynapse.Lemmas.TokenSpendStore
import Archisynapse.Lemmas.TokenSpendTimes
import Archisynapse.Lyrica.Outbox
import Archisynapse.Merchants.Account
import Archisynapse.Merchants.Service
import Archisynapse.Merchants.Store
import Archisynapse.Payments.Database
import Archisynapse.Payments.Listing
import Archisynapse.Payments.Service
import Archisynapse.Payments.Types
import Archisynapse.Payments.World
import Archisynapse.ReceiptProof.KeyRing
import Archisynapse.ReceiptProof.Proof
import Archisynapse.Reputation.Store
import Archisynapse.Royalty.Database
import Archisynapse.Royalty.MoneyMath
import Archisynapse.Royalty.Service
import Archisynapse.Royalty.Types
import Archisynapse.RoyaltyGateway.Calls
import Archisynapse.RoyaltyGateway.MoneyMath
import Archisynapse.RoyaltyGateway.Orchestrator
import Archisynapse.RoyaltyGateway.Routes
import Archisynapse.RoyaltyGateway.State
import Archisynapse.RoyaltyGateway.Types
import Archisynapse.RoyaltyGateway.Verification
import Archisynapse.ServiceAuth.Tokens
import Archisynapse.TenantRole.Statements
import Archisynapse.TokenSpend.Rates
import Archisynapse.TokenSpend.Store
import Archisynapse.TokenSpend.Types
import Archisynapse.Guarantees.LyricaOutbox
import Archisynapse.Base.Slices
import Archisynapse.Lemmas.CommerceSlices
