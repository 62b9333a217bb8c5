import Falak.Api.Watch
import Falak.Auth.FailedJoin
import Falak.Auth.Identity
import Falak.Auth.JoinCluster
import Falak.Auth.NodeKeys
import Falak.Auth.RejectionPriority
import Falak.Auth.Renewal
import Falak.Auth.Replay
import Falak.Auth.SignedFields
import Falak.Capsule.Atomicity
import Falak.Capsule.Durability
import Falak.Capsule.LifecycleChain
import Falak.Capsule.Momentum
import Falak.Config.Lossless
import Falak.Election.Authentic
import Falak.Election.Dedup
import Falak.Election.FullScore
import Falak.Election.Isolation
import Falak.Election.NoLostMessage
import Falak.Election.PublishAt
import Falak.Election.ReplicaSpread
import Falak.Election.Shutdown
import Falak.Election.Verdicts
import Falak.Events.Accounting
import Falak.Gravity.Affinity
import Falak.Health.Detection
import Falak.Health.Gossip
import Falak.Health.NoSuspicion
import Falak.Health.Responders
import Falak.Metrics.History
import Falak.Metrics.Provider
import Falak.Node.Admission
import Falak.Node.Convergence
import Falak.Node.CrashRecovery
import Falak.Node.FreshSlots
import Falak.Node.Launch
import Falak.Node.PeerState
import Falak.Node.RateLimit
import Falak.Node.Rejoin
import Falak.Node.ScalingMonitor
import Falak.Node.SecretsKey
import Falak.Node.SilentRemoval
import Falak.Node.SlotElections
import Falak.Node.SoftRules
import Falak.Orbit.ExactlyOnce
import Falak.Phonebook.Merge
import Falak.Runtime.FailureReports
import Falak.Runtime.Logs
import Falak.Runtime.Replica
import Falak.Runtime.Stats
import Falak.Scaling.Units
import Falak.Snapshot.Containment
import Falak.Snapshot.FailedPull
import Falak.Snapshot.FirstResponder
import Falak.Sync.Completeness
import Falak.Wire.Framing
import Falak.Wire.RoundTrip
