import IncaCook.Library.Crash
import IncaCook.Library.Runs
import IncaCook.Library.Table
import IncaCook.Model.Conversations
import IncaCook.Model.Subscriptions
import IncaCook.Properties.AbsorbingOrders
import IncaCook.Properties.AllOrNothing
import IncaCook.Properties.CapturedPayments
import IncaCook.Properties.CartMoney
import IncaCook.Properties.Conversations
import IncaCook.Properties.DisputedEarnings
import IncaCook.Properties.DriverDisappeared
import IncaCook.Properties.FairPricing
import IncaCook.Properties.Feed
import IncaCook.Properties.PaidOut
import IncaCook.Properties.FinishedDeliveries
import IncaCook.Properties.Idempotency
import IncaCook.Properties.Kyc
import IncaCook.Properties.LastMinute
import IncaCook.Properties.LegalDocuments
import IncaCook.Properties.LiveDeliveries
import IncaCook.Properties.NoDriver
import IncaCook.Properties.OneDelivery
import IncaCook.Properties.OrderProgress
import IncaCook.Properties.Overselling
import IncaCook.Properties.ProofOfDelivery
import IncaCook.Properties.RefundedOrders
import IncaCook.Properties.RefundsAndEarnings
import IncaCook.Properties.ReleaseSweep
import IncaCook.Properties.Stock
import IncaCook.Properties.StripeSubscriptions
import IncaCook.Properties.UnreadCounters
import IncaCook.Properties.Watchdogs
import IncaCook.Steps.Books
import IncaCook.Steps.Chat
import IncaCook.Properties.Withdrawals
import IncaCook.Properties.PickedUpDeliveries
import IncaCook.Properties.DisputeDecisions
import IncaCook.Properties.ClaimWindow
import IncaCook.Properties.LostCancellations
import IncaCook.Properties.Snapshots
import IncaCook.Properties.Bookkeeping
import IncaCook.Properties.CreditedOrders
import IncaCook.Model.Catalog
import IncaCook.Steps.Catalog
import IncaCook.Properties.CatalogOrders
import IncaCook.Properties.CatalogClaims
import IncaCook.Properties.CatalogRefunds
import IncaCook.Model.Onboarding
import IncaCook.Properties.Onboarding
import IncaCook.Properties.OneThread
import IncaCook.Properties.DuplicateStrikes
import IncaCook.Model.AvailableJobs
import IncaCook.Properties.AvailableJobs
import IncaCook.Library.Alarms
import IncaCook.Model.Reviews
import IncaCook.Steps.Reviews
import IncaCook.Properties.Suspensions
import IncaCook.Properties.SellerRatings
import IncaCook.Properties.RevenueCat
import IncaCook.Model.Businesses
import IncaCook.Properties.Chargebacks
import IncaCook.Properties.Businesses
import IncaCook.Model.Addresses
import IncaCook.Properties.Addresses
import IncaCook.Properties.PickupPoints
import IncaCook.Model.Listings
import IncaCook.Steps.Listings
import IncaCook.Properties.Listings
import IncaCook.Properties.PublishGate
import IncaCook.Properties.Siret
import IncaCook.Properties.Realtime
import IncaCook.Properties.MessageHistory
import IncaCook.Properties.Dashboard
import IncaCook.Library.Latches
import IncaCook.Model.PaymentConfirmation
import IncaCook.Steps.Notices
import IncaCook.Properties.PaidNotices
import IncaCook.Steps.Interleaved
import IncaCook.Properties.ReadyTwice
import IncaCook.Properties.OneClaim
import IncaCook.Properties.PaidFirst
import IncaCook.Properties.StockConserved
import IncaCook.Properties.PaidOnce
import IncaCook.Properties.AuditTrail
import IncaCook.Properties.Confidentiality
import IncaCook.Model.Timers
import IncaCook.Steps.Timers
import IncaCook.Properties.WatchStarts
import IncaCook.Properties.Watched
import IncaCook.Properties.Punctual
import IncaCook.Properties.Parties
import IncaCook.Properties.Accounts
import IncaCook.Properties.VerifiedContacts
import IncaCook.Properties.PayoutAccounts
import IncaCook.Properties.Pushes
import IncaCook.Properties.Moderation
import IncaCook.Properties.Uploads
