import FlowTesting.Cluster.Trial
import FlowTesting.Connection
import FlowTesting.Controller.Watch
import FlowTesting.Main
import FlowTesting.Proofs.Allocation
import FlowTesting.Proofs.Announcements
import FlowTesting.Proofs.ApiServer.LabeledDeletion
import FlowTesting.Proofs.CleanupReport
import FlowTesting.Proofs.ConcurrentProvisioning
import FlowTesting.Proofs.Deployment
import FlowTesting.Proofs.Execution.Listing
import FlowTesting.Proofs.Execution.Undisturbed
import FlowTesting.Proofs.FinalizerGuard
import FlowTesting.Proofs.Isolation
import FlowTesting.Proofs.Lifecycle
import FlowTesting.Proofs.MatchResults
import FlowTesting.Proofs.FilterResults
import FlowTesting.Proofs.Alignment
import FlowTesting.Proofs.Retirement
import FlowTesting.Proofs.Retention
import FlowTesting.Proofs.LaggingRuns
import FlowTesting.Proofs.OwnershipLabels
import FlowTesting.Proofs.SharedAggregator
import FlowTesting.Proofs.AggregatorPresence
import FlowTesting.Proofs.Routing
import FlowTesting.Proofs.PartialWrites
import FlowTesting.Proofs.Interference
import FlowTesting.Proofs.UserObjects
import FlowTesting.Proofs.ProvisioningOutcome
import FlowTesting.Proofs.Deadline
import FlowTesting.Proofs.CommandLine
import FlowTesting.Proofs.KeyedStore
import FlowTesting.Proofs.RoundTrip
