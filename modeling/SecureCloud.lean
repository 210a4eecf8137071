import SecureCloud.Auth.MfaLapse
import SecureCloud.Auth.RefreshHistory
import SecureCloud.Messaging.ExactlyOnce
import SecureCloud.Messaging.Rollover
import SecureCloud.Gateway.ReadScopes
import SecureCloud.Gateway.PublicRoutes
import SecureCloud.Gateway.ValidationCache
import SecureCloud.Gateway.CircuitBreaker
import SecureCloud.Gateway.SessionRevocation
import SecureCloud.Audit.EventLookup
import SecureCloud.Messaging.DirectConversations
import SecureCloud.Messaging.ReadReceipts
import SecureCloud.Messaging.CursorIsolation
import SecureCloud.Auth.RecoveryCodes
import SecureCloud.Auth.ChallengeAttempts
import SecureCloud.Auth.SignedPrekeyUniqueness
import SecureCloud.Client.KeyChange
import SecureCloud.Gateway.RateLimiter
import SecureCloud.Files.ChunkRanges
import SecureCloud.Client.DirectConversations
import SecureCloud.Messaging.Delivery.Outbox
import SecureCloud.Messaging.Delivery.Preservation
import SecureCloud.Messaging.Delivery.Recovery
import SecureCloud.Messaging.Delivery.ExpiryAgreement
import SecureCloud.Messaging.SequenceUniqueness
import SecureCloud.Files.StatusOrder
import SecureCloud.Files.FinalizedContent
import SecureCloud.Files.CapabilityScope
import SecureCloud.Messaging.Delivery.SchedulerFairness
import SecureCloud.Messaging.EmptyGroups
import SecureCloud.Messaging.Inboxes
import SecureCloud.Messaging.DeviceInvalidation
import SecureCloud.Messaging.Delivery.ConnectionRegistry
import SecureCloud.Messaging.Fingerprint
import SecureCloud.Files.OutboxRelay
import SecureCloud.Files.Transactions
import SecureCloud.Files.Progress
import SecureCloud.Messaging.WorkerPool
import SecureCloud.Audit.SqlGuard
import SecureCloud.Messaging.PlaintextGuard
