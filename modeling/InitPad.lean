import InitPad.Accounts.Fencing
import InitPad.Accounts.GiteaAccounts
import InitPad.Accounts.LinkUse
import InitPad.Accounts.Registration
import InitPad.Admin.Administrators
import InitPad.Agents.CredentialRotation
import InitPad.Agents.LeaseDeadline
import InitPad.Agents.UrlMigration
import InitPad.AppConfig.Settings
import InitPad.Approvals.ApprovedOnce
import InitPad.Approvals.ClosedRequests
import InitPad.Approvals.FailedRequests
import InitPad.Approvals.Rollback
import InitPad.Artifacts.ImageArchive
import InitPad.Capacity.Bindings
import InitPad.Ci.History
import InitPad.Ci.RunAgain
import InitPad.Credentials.Generations
import InitPad.Deployment.OperationSteps
import InitPad.Deployment.Tasks
import InitPad.Gateway.CaddyDocument
import InitPad.Gateway.RestoredPath
import InitPad.Gateway.RouteOutcome
import InitPad.Gateway.RouteOwners
import InitPad.Gateway.ServingWorkload
import InitPad.GitHub.Uninstall
import InitPad.GitHub.Vault
import InitPad.Gitea.RegistrySecret
import InitPad.Hosting.ImageCache
import InitPad.Hosting.Removed
import InitPad.Interleave.Contract
import InitPad.Interleave.Outcome
import InitPad.Leader.OneLeader
import InitPad.Outbound.Policy
import InitPad.Projects.DeploymentKeys
import InitPad.Provisioning.Successors
import InitPad.Releases.Agreement
import InitPad.Rotation.Completion
import InitPad.Rotation.Delivery
import InitPad.Runs.CancellationWins
import InitPad.Runs.ExecutionLease
import InitPad.Runs.FinishedOperation
import InitPad.Runs.History
import InitPad.Runs.JobLease
import InitPad.Runs.LockOwnership
import InitPad.Runs.ProgressOrder
import InitPad.Runs.PublishedWorkflow
import InitPad.Runs.RejectedBegin
import InitPad.Runs.RouteGenerations
import InitPad.Runs.StrandedLock
import InitPad.Runs.StrandedWorkflow
import InitPad.Runs.TargetBinding
import InitPad.Supervisor.LaunchedOnce
import InitPad.Supervisor.Unblocked
import InitPad.Supervisor.UpdateStatus
import InitPad.Targets.Allocations
import InitPad.Targets.Verification
import InitPad.Updates.Pending
import InitPad.Wire.Utf8
import InitPad.Workload.CallRules
import InitPad.Workload.Clearing
import InitPad.Workload.CompleteRemoval
import InitPad.Workload.Continuity
import InitPad.Workload.Convergence
import InitPad.Workload.Isolation
import InitPad.Workload.Logs
import InitPad.Workload.Retry
