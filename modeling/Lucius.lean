import Lucius.Integration.AcceptanceDrift
import Lucius.Integration.Atomicity
import Lucius.Integration.ByteFidelity
import Lucius.Integration.FrozenScope
import Lucius.Learning.ClientFirewall
import Lucius.Queue.ResumeGating
import Lucius.Runtime.RetryFailover
import Lucius.Runtime.RoutingPreview
import Lucius.Runtime.ScopeContainment
import Lucius.Portfolio.FeedDependencies
import Lucius.Portfolio.FeedKeys
import Lucius.Portfolio.FeedPriority
import Lucius.Queue.SelectionAgreement
import Lucius.Runtime.MissionStatus
import Lucius.NightShift.BrokenWorkspaces
import Lucius.Memory.Retirement
import Lucius.Models.Gateway
import Lucius.Runtime.DocumentationGates
import Lucius.Runtime.CompletedVerified
import Lucius.Tasks.DependencyOrder
import Lucius.Repositories.Freshness
import Lucius.Pilots.ReleaseSoundness
import Lucius.NightShift.Quarantine
import Lucius.Runtime.Excerpts
import Lucius.Runtime.CompactEdits
import Lucius.Planning.ContextBudget
import Lucius.Planning.References
import Lucius.Planning.SupersessionChain
import Lucius.Portfolio.FeederBudgets
import Lucius.Projects.RegressionGuard
import Lucius.Pilots.DependencyPolicy
import Lucius.Pilots.ProvisionedRelease
import Lucius.Runtime.TerminalStates
import Lucius.Tasks.RunOwnership
import Lucius.Runtime.WithdrawnPlans
import Lucius.Repositories.WorktreeHygiene
import Lucius.Runtime.ContentAcceptance
import Lucius.Runtime.CommandLines
import Lucius.Runtime.ReadOnlyEvidence
import Lucius.Runtime.LineClassification
import Lucius.Runtime.StalePlans
import Lucius.Pilots.RegressionGates
import Lucius.Pilots.RepositoryState
import Lucius.Retrieval.Grounding
import Lucius.Pilots.AllocationOrder
import Lucius.Pilots.PlannedPaths
import Lucius.Pilots.InvariantText
