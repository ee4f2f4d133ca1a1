import Kuber.Library.OrderedDict
import Kuber.Library.BoundedRetry
import Kuber.Library.Canonical
import Kuber.Library.DefiniteAssignment
import Kuber.Library.ExceptResult
import Kuber.Library.LeastGrant
import Kuber.Library.Framing
import Kuber.Library.FirstMatch
import Kuber.Library.Raising
import Kuber.Library.StateGraph
import Kuber.Library.TextLines
import Kuber.Library.Trimming
import Kuber.Library.StableOrder
import Kuber.Library.LastValueCache
import Kuber.Library.Transition
import Kuber.Library.Locks
import Kuber.Library.SingleFlight
import Kuber.Library.PartitionedLog
import Kuber.Library.Circulation
import Kuber.Exceptions
import Kuber.Rules.Models
import Kuber.Rules.CanonicalForm
import Kuber.Rules.Authorization
import Kuber.Rules.Canonicalizer
import Kuber.Rules.Reducer
import Kuber.Rules.LeastPrivilege
import Kuber.Rules.RepairUnion
import Kuber.Rules.Document
import Kuber.Rules.JsonText
import Kuber.Rules.SortedKeys
import Kuber.Rules.Parser
import Kuber.Rules.Resolver
import Kuber.Rules.WellFormed
import Kuber.Rules.ParseErrors
import Kuber.Rules.RuleSemantics
import Kuber.Rules.DocumentOrder
import Kuber.Rules.Generator
import Kuber.Rules.RoundTrip
import Kuber.Rules.Regeneration
import Kuber.Rules.Expansion
import Kuber.Rules.Risk
import Kuber.Rules.Candidates
import Kuber.Rules.Measures
import Kuber.Agent.Interfaces
import Kuber.Agent.Workload
import Kuber.Agent.RepairLoop
import Kuber.Agent.CandidateGate
import Kuber.Agent.Outcome
import Kuber.Agent.NodeReads
import Kuber.Agent.LeftoverState
import Kuber.Agent.Isolation
import Kuber.Agent.Convergence
import Kuber.Agent.Accounting
import Kuber.Judge.Simulator
import Kuber.Context.Paths
import Kuber.Context.Disk
import Kuber.Context.Models
import Kuber.Context.Store
import Kuber.Context.Registry
import Kuber.Context.Indexer
import Kuber.Context.Incremental
import Kuber.Context.ContentDigest
import Kuber.Context.Containment
import Kuber.Context.Relocation
import Kuber.Runtime.Observation
import Kuber.Runtime.FreshLogs
import Kuber.Runtime.TrackedKubeClient
import Kuber.Runtime.Collection
import Kuber.Runtime.ReferenceWorkload
import Kuber.Runtime.RequestLogs
import Kuber.Runtime.ReferenceCalls
import Kuber.Runtime.SmokeVerification
import Kuber.Runtime.Cluster
import Kuber.Runtime.GeneratedObjects
import Kuber.Runtime.KubernetesEnvironment
import Kuber.Runtime.AdapterEffects
import Kuber.Runtime.Sandbox
import Kuber.Runtime.Enforcement
import Kuber.Runtime.Boundary
import Kuber.Runtime.Rollback
import Kuber.Runtime.Interference
import Kuber.Runtime.SharedCluster
import Kuber.Runtime.FirstAttempt
import Kuber.Event.Contracts
import Kuber.Event.Worker
import Kuber.Event.WorkerStep
import Kuber.Event.Provenance
import Kuber.Event.WorkerPool
import Kuber.Event.RecordMoves
import Kuber.Event.PairedTasks
import Kuber.Event.Acceptance
import Kuber.Event.LockScope
import Kuber.Event.LeaseScope
import Kuber.Event.Redelivery
import Kuber.Event.SingleRun
import Kuber.Event.Disposal
import Kuber.Event.Bus
import Kuber.Event.Delivery
import Kuber.Event.Custody
import Kuber.Event.Wire
import Kuber.Event.WireRoundTrip
import Kuber.Event.Kafka
import Kuber.Event.Commits
import Kuber.Agent.Completion
import Kuber.Agent.HonestCalls
import Kuber.Agent.Trajectory
import Kuber.Agent.Reasoner
import Kuber.Agent.ReasonedRun
import Kuber.Judge.Simulators
import Kuber.Judge.Evaluation
import Kuber.Judge.Baseline
import Kuber.Judge.Report
import Kuber.System.Coordinator
import Kuber.System.Deployment
import Kuber.System.Soundness
import Kuber.System.CountedOnce
import Kuber.System.LiveRun
import Kuber.Judge.SystemBenchmarks
import Kuber.Event.CalmSteps
import Kuber.Event.DeliveryCost
import Kuber.Judge.Completion
import Kuber.Library.Progress
import Kuber.System.Termination
