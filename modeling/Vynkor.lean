import Vynkor.Lib.DashMap
import Vynkor.Lib.Machine
import Vynkor.Lib.Text
import Vynkor.Wire
import Vynkor.Registry
import Vynkor.Proofs.RegistryCalls
import Vynkor.Proofs.ActionTable
import Vynkor.Proofs.RegistryLookup
import Vynkor.Proofs.RegistryShape
import Vynkor.Bus
import Vynkor.Permissions
import Vynkor.Router
import Vynkor.System
import Vynkor.Proofs.RouterCases
import Vynkor.Proofs.RouterMoves
import Vynkor.Proofs.RouterSteps
import Vynkor.Proofs.ProviderRemoval
import Vynkor.Proofs.ActionLedger
import Vynkor.Proofs.RequesterDeparture
import Vynkor.Proofs.ReplyProtocol
import Vynkor.Proofs.StreamCorrelation
import Vynkor.Proofs.ThirdParty
import Vynkor.Proofs.CallerIdentity
import Vynkor.Proofs.DeviceScope
import Vynkor.Race
import Vynkor.Proofs.RaceSteps
import Vynkor.Proofs.RegistrationRace
import Vynkor.Proofs.CallerQuota
import Vynkor.Proofs.ActionGuard
import Vynkor.Proofs.PeerIpc
import Vynkor.Proofs.ErrorBudget
import Vynkor.Lib.Journal
import Vynkor.Framing
import Vynkor.Connection
import Vynkor.Bridge
import Vynkor.Proofs.HostTraffic
import Vynkor.Proofs.ReadLoop
import Vynkor.Proofs.Reassembly
import Vynkor.Proofs.AuthenticBytes
import Vynkor.Node
import Vynkor.Lib.Precedence
import Vynkor.Proofs.Outgoing
import Vynkor.Proofs.KeyArming
import Vynkor.Lib.Weight
import Vynkor.Proofs.ReassemblyBounds
import Vynkor.Proofs.WrittenFrames
import Vynkor.Lazy
import Vynkor.Lane
import Vynkor.Proofs.Lanes
import Vynkor.Proofs.LazyConservation
import Vynkor.Proofs.LazyExclusion
import Vynkor.Exchange
import Vynkor.Proofs.LazyOrder
import Vynkor.Proofs.GateFrames
import Vynkor.Proofs.IdleStop
import Vynkor.Supervisor
import Vynkor.Proofs.SupervisorSteps
import Vynkor.Proofs.SupervisorRuns
import Vynkor.Proofs.SupervisorFates
import Vynkor.Proofs.ExplicitStop
import Vynkor.Proofs.ManualRestart
import Vynkor.Proofs.SingleProcess
import Vynkor.Proofs.ZombieEntries
import Vynkor.Proofs.RestartBudget
import Vynkor.Credentials
import Vynkor.Proofs.TicketUse
import Vynkor.Proofs.DeviceCredentials
import Vynkor.Pairing
import Vynkor.Proofs.PairingFreshness
import Vynkor.Gateway
import Vynkor.Proofs.SlotAccounting
import Vynkor.Proofs.DeviceRecheck
import Vynkor.Outbox
import Vynkor.Proofs.OutboxSteps
import Vynkor.Proofs.DeliveredFinal
import Vynkor.Proofs.BoundedRedelivery
import Vynkor.Lifecycle
import Vynkor.Proofs.LifecycleSteps
import Vynkor.Lib.Buckets
import Vynkor.Proofs.Subscriptions
import Vynkor.Proofs.DeclaredSubscriptions
import Vynkor.Proofs.RegistrationEvents
import Vynkor.Chronicle
import Vynkor.Lib.Numbered
import Vynkor.Proofs.DeathCounts
import Vynkor.Proofs.EventIds
import Vynkor.Proofs.EventUniqueness
import Vynkor.Lib.Dependencies
import Vynkor.Lib.Kahn
import Vynkor.Loader
import Vynkor.Proofs.StartOrder
import Vynkor.Proofs.MuxStrictness
import Vynkor.Proofs.RegistrationRoutes
import Vynkor.Proofs.EventFanout
import Vynkor.Proofs.GrantedPermissions
import Vynkor.Proofs.BroadcastMirror
import Vynkor.Lib.TextField
import Vynkor.Proofs.WireNames
import Vynkor.Bridge.Transport
import Vynkor.Proofs.TransportSecurity
import Vynkor.Proofs.ArrivalOrder
import Vynkor.Lib.Calendar
import Vynkor.Timestamp
import Vynkor.Proofs.CivilTime
import Vynkor.Proofs.ProtocolVersions
import Vynkor.Api
import Vynkor.Proofs.PermissionVocabulary
import Vynkor.Lib.Utf8
import Vynkor.Proofs.AdminGates
import Vynkor.Sandbox
import Vynkor.Proofs.SandboxPaths
import Vynkor.Settings
import Vynkor.Proofs.PluginIds
import Vynkor.Advertise
import Vynkor.Proofs.AdvertisedUrl
import Vynkor.Bridge.Session
import Vynkor.Proofs.BridgeMoves
import Vynkor.Proofs.BridgeConns
import Vynkor.Proofs.BridgeHandshake
import Vynkor.Instance
import Vynkor.Proofs.InstanceLock
import Vynkor.Proofs.WatchdogRounds
