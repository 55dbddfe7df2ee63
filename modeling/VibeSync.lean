import VibeSync.Machine
import VibeSync.Transaction
import VibeSync.Proofs.TransactionLogic
import VibeSync.Proofs.TransactionPairs
import VibeSync.Registry
import VibeSync.Keyset
import VibeSync.PartialMap
import VibeSync.PairedTables
import VibeSync.Chronicle
import VibeSync.BestScore
import VibeSync.ReadThrough
import VibeSync.Walk
import VibeSync.Slices
import VibeSync.Hull
import VibeSync.Words
import VibeSync.Radix
import VibeSync.Decimal
import VibeSync.Base64
import VibeSync.BigEndian
import VibeSync.JsonObject
import VibeSync.Strings
import VibeSync.Errors
import VibeSync.Rpc
import VibeSync.Proofs.RpcErrors
import VibeSync.Columns
import VibeSync.Id
import VibeSync.Proofs.Identifiers
import VibeSync.Proofs.IdentifierOrder
import VibeSync.Listings
import VibeSync.Proofs.Listings
import VibeSync.Outbox.Table
import VibeSync.Outbox.Relay
import VibeSync.Proofs.OutboxSafety
import VibeSync.Proofs.OutboxOrder
import VibeSync.Kafka.Consumer
import VibeSync.Kafka.Idempotency
import VibeSync.Proofs.KafkaConsumer
import VibeSync.Proofs.KafkaIdempotency
import VibeSync.Auth.Domain
import VibeSync.Auth.Tables
import VibeSync.Auth.Service
import VibeSync.Auth.Accounts
import VibeSync.Auth.SignUp
import VibeSync.Auth.Password
import VibeSync.Auth.Keys
import VibeSync.Auth.Introspect
import VibeSync.Auth.Jwks
import VibeSync.Auth.ProviderTokens
import VibeSync.Proofs.AuthTables
import VibeSync.Proofs.AuthSteps
import VibeSync.Proofs.AuthReuse
import VibeSync.Proofs.AuthRotation
import VibeSync.Proofs.AuthPresentation
import VibeSync.Proofs.AuthLogout
import VibeSync.Proofs.AuthSessions
import VibeSync.Proofs.AuthFlows
import VibeSync.Proofs.AuthAccounts
import VibeSync.Proofs.AuthIdentity
import VibeSync.Proofs.AuthRoster
import VibeSync.Proofs.AuthUsernames
import VibeSync.Proofs.AuthPassword
import VibeSync.Proofs.AuthLogin
import VibeSync.Proofs.AuthKeys
import VibeSync.Proofs.AuthIntrospect
import VibeSync.Proofs.AuthJwks
import VibeSync.Proofs.AuthProviderTokens
import VibeSync.Users.Domain
import VibeSync.Users.Service
import VibeSync.Proofs.UserProjection
import VibeSync.Proofs.UserEdits
import VibeSync.Proofs.UserPipeline
import VibeSync.Proofs.UserArrival
import VibeSync.Rooms.Domain
import VibeSync.Rooms.Tables
import VibeSync.Rooms.Service
import VibeSync.Rooms.Reads
import VibeSync.Proofs.RoomTables
import VibeSync.Proofs.RoomSteps
import VibeSync.Proofs.RoomSlugs
import VibeSync.Proofs.RoomOwnership
import VibeSync.Proofs.RoomValidity
import VibeSync.Proofs.RoomProvenance
import VibeSync.Proofs.RoomOutlines
import VibeSync.Proofs.RoomCounts
import VibeSync.Proofs.RoomMembership
import VibeSync.Proofs.RoomGrants
import VibeSync.Proofs.RoomCommands
import VibeSync.Proofs.RoomDeletion
import VibeSync.Proofs.RoomPrivacy
import VibeSync.Media.Queue
import VibeSync.Proofs.MediaQueue
import VibeSync.Proofs.MediaList
import VibeSync.Providers.Domain
import VibeSync.Providers.Service
import VibeSync.Proofs.ProviderDurations
import VibeSync.Proofs.ProviderCache
import VibeSync.Sync.State
import VibeSync.Sync.Heartbeat
import VibeSync.Sync.Median
import VibeSync.Sync.RoomSync
import VibeSync.Sync.RoomClient
import VibeSync.Sync.Handlers
import VibeSync.Sync.Service
import VibeSync.Sync.Stream
import VibeSync.Sync.Process
import VibeSync.Sync.Client
import VibeSync.Sync.Connection
import VibeSync.Sync.Player
import VibeSync.Sync.RoomPage
import VibeSync.Proofs.SyncSteps
import VibeSync.Proofs.SyncService
import VibeSync.Proofs.SyncElection
import VibeSync.Proofs.SyncTenure
import VibeSync.Proofs.SyncSuccession
import VibeSync.Proofs.SyncFencing
import VibeSync.Proofs.SyncFeed
import VibeSync.Proofs.SyncStream
import VibeSync.Proofs.SyncRing
import VibeSync.Proofs.SyncRecovery
import VibeSync.Proofs.SyncClock
import VibeSync.Proofs.SyncRestart
import VibeSync.Proofs.SyncNoninterference
import VibeSync.Proofs.SyncController
import VibeSync.Proofs.SyncPositions
import VibeSync.Proofs.SyncCorrection
import VibeSync.Proofs.SyncEstimates
import VibeSync.Proofs.SyncSmoothing
import VibeSync.Proofs.SyncMedian
import VibeSync.Proofs.SyncSwitching
import VibeSync.Proofs.SyncMaterialisation
import VibeSync.Proofs.SyncProvenance
import VibeSync.Proofs.SyncLineage
import VibeSync.Proofs.SyncAgreement
import VibeSync.Proofs.SyncPlayer
import VibeSync.Proofs.SyncConnection
import VibeSync.Proofs.SyncQueueWalk
import VibeSync.Playback.Room
import VibeSync.Playback.Service
import VibeSync.Proofs.PlaybackEvents
import VibeSync.Proofs.PlaybackOrder
import VibeSync.Proofs.PlaybackProvenance
import VibeSync.Authority
import VibeSync.Proofs.Authority
import VibeSync.Web.Subject
import VibeSync.Proofs.WebSubject
