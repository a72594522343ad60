import Audisor.Aflow.TrustedEvidence
import Audisor.Controller.ApprovalDecision
import Audisor.Controller.ApprovalGate
import Audisor.Controller.ConcurrentClaims
import Audisor.Controller.DeadEnds
import Audisor.Controller.EventCoverage
import Audisor.Controller.ExecutedPlan
import Audisor.Controller.FailedPlanning
import Audisor.Controller.RecordShape
import Audisor.Controller.ReviewGate
import Audisor.Controller.TerminalStates
import Audisor.Events.Recovery
import Audisor.Json.RoundTrip
import Audisor.Tooling.Conversation
import Audisor.Tooling.Policy
import Audisor.Tooling.Transparency
import Audisor.Usage.Pricing
import Audisor.Controller.Histories
import Audisor.Chat.Consistency
import Audisor.Builder.PreparedOrder
import Audisor.Aflow.DriftVerdicts
import Audisor.Aflow.TamperEvidence
import Audisor.Aflow.AuthorityContainment
import Audisor.Aflow.SemanticGaps
import Audisor.Aflow.ResolvedReferences
import Audisor.Aflow.LockedPlans
import Audisor.Fix.Stages
import Audisor.Fix.ResolvedDependencies
import Audisor.Fix.HandoffAgreement
import Audisor.Fix.HandoffScope
import Audisor.Fix.SingleFlight
import Audisor.Fix.CommandAuthority
import Audisor.Fix.FalseCompletion
import Audisor.Json.Order
import Audisor.Lifecycle.Contracts
import Audisor.Lifecycle.Hook
import Audisor.Lifecycle.MutationGate
import Audisor.Interaction.Stateful
import Audisor.Operations.Store
import Audisor.Lifecycle.Review
import Audisor.Lifecycle.ReviewRuns
import Audisor.Lifecycle.ReplayedReviews
import Audisor.Lifecycle.InterruptedReviews
import Audisor.Lifecycle.Sealing
import Audisor.Lifecycle.SealedPlan
import Audisor.Graph.Dependencies
import Audisor.Builder.Scheduler
import Audisor.Builder.Assignments
import Audisor.Builder.Schedules
import Audisor.Builder.ExecutionStore
import Audisor.Builder.Reconciliation
import Audisor.Interaction.Shared
import Audisor.Builder.GlobalAuthority
import Audisor.Builder.TargetCollisions
import Audisor.Operations.SharedStore
import Audisor.Operations.AtMostOnce
import Audisor.Interaction.Unwinding
import Audisor.Operations.Isolation
import Audisor.Json.Schema
import Audisor.ArtifactFlow.StageContracts
import Audisor.ArtifactFlow.Engine
import Audisor.ArtifactFlow.Persistence
import Audisor.ArtifactFlow.Pipeline
import Audisor.ArtifactFlow.Runs
import Audisor.ArtifactFlow.Histories
import Audisor.ArtifactFlow.GapCoverage
import Audisor.ArtifactFlow.Replays
import Audisor.ArtifactFlow.Revisions
import Audisor.ArtifactFlow.Markers
import Audisor.ArtifactFlow.ActiveRuns
import Audisor.Interaction.Tallies
import Audisor.Controller.Rejections
import Audisor.Controller.Rounds
import Audisor.Controller.ReviewRounds
import Audisor.Controller.Carrying
import Audisor.Controller.RetryKeys
import Audisor.Controller.Retries
import Audisor.Tooling.Budget
import Audisor.Usage.Ledger
import Audisor.Usage.Finalisation
import Audisor.Controller.BoundClaims
import Audisor.Interaction.Interleaving
import Audisor.Builder.IdempotencyIndex
import Audisor.Builder.Bindings
import Audisor.Builder.Linearizability
import Audisor.Aflow.DependencyOrder
import Audisor.Aflow.CleanRequests
import Audisor.Aflow.EvaluableRequests
import Audisor.Aflow.ReviewedDecisions
import Audisor.Aflow.ClosingFindings
import Audisor.Aflow.ClosureReports
import Audisor.Aflow.RealChanges
import Audisor.Aflow.SurvivingGaps
import Audisor.Lists.Cursors
import Audisor.Events.Paging
import Audisor.Tooling.Driving
import Audisor.Tooling.UsageAccounts
import Audisor.Tooling.OutputBudgets
import Audisor.Aflow.TracedDecisions
import Audisor.Lifecycle.SliceAuthority
import Audisor.Lifecycle.ActiveState
import Audisor.Graph.Kahn
import Audisor.Builder.TaskOrder
import Audisor.Json.Trees
import Audisor.Builder.RequestFingerprints
import Audisor.Number.Decimals
import Audisor.Usage.Charges
import Audisor.Lifecycle.PatchTargets
import Audisor.Json.Comparison
import Audisor.Lists.Sorting
import Audisor.Lifecycle.CanonicalForms
import Audisor.Lifecycle.ContractIdentity
import Audisor.Aflow.RefusedRequests
import Audisor.Fix.OwnGroundings
import Audisor.Fix.SatisfiableEntries
import Audisor.Fix.RerunTests
import Audisor.Fix.FallbackRescan
import Audisor.Operations.FixPackages
import Audisor.Fix.EnrichedManifests
import Audisor.ArtifactFlow.StageWorkers
import Audisor.ArtifactFlow.StageAttempts
import Audisor.ArtifactFlow.AttemptBudgets
import Audisor.Text.Stamps
import Audisor.ArtifactFlow.ResultOwners
import Audisor.Interaction.Outcome
import Audisor.Fix.ContinuationRun
import Audisor.Fix.LaunchOnce
import Audisor.Aflow.StatedRatings
import Audisor.Aflow.PlanLocations
import Audisor.Chat.TaskStore
import Audisor.Chat.Alternation
import Audisor.Chat.ShellResults
import Audisor.Fix.ReleaseEvidence
import Audisor.Fix.Snapshots
