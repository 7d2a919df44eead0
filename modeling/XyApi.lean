import XyApi.Subscription.GroupHistory
import XyApi.Subscription.FrozenSchedule
import XyApi.Billing.Intent
import XyApi.Billing.EpochHistory
import XyApi.Billing.Dispatch
import XyApi.Billing.Shortage
import XyApi.Billing.LegacyOnce
import XyApi.Billing.LedgerKeys
import XyApi.Payment.ReleaseConcurrency
import XyApi.Payment.ReversalQuota
import XyApi.Payment.DailyLimit
import XyApi.Pricing.TieredTokens
import XyApi.Pricing.RealtimeAgreement
import XyApi.Pricing.ExpressionCache
import XyApi.Relay.UsageRoundTrip
import XyApi.Relay.ContentPreservation
import XyApi.Relay.Closing
import XyApi.Relay.GeminiRequest
import XyApi.Relay.GeminiStream
import XyApi.Relay.GeminiUsage
import XyApi.Relay.ChatToResponses
import XyApi.RateLimit.ModelLimitAgreement
import XyApi.RateLimit.ListLimiter
import XyApi.Fetch.DomainSpelling
import XyApi.Override.Move
import XyApi.Override.Prune
import XyApi.Payment.RewardRuns
import XyApi.Pricing.GroupSwitch
import XyApi.Channel.Agreement
import XyApi.Channel.Retry
