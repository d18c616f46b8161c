import ClusterBootstrap.Main
import ClusterBootstrap.Proofs.Client.Exchanges
import ClusterBootstrap.Proofs.Client.Repeats
import ClusterBootstrap.Proofs.Client.Wording
import ClusterBootstrap.Proofs.Command.Groups
import ClusterBootstrap.Proofs.Command.Room
import ClusterBootstrap.Proofs.Command.Verdict
import ClusterBootstrap.Proofs.Log.Verbosity
import ClusterBootstrap.Proofs.Run.Ascent
import ClusterBootstrap.Proofs.Run.Assign
import ClusterBootstrap.Proofs.Run.Attainable
import ClusterBootstrap.Proofs.Run.Calls
import ClusterBootstrap.Proofs.Run.Choice
import ClusterBootstrap.Proofs.Run.Coherence
import ClusterBootstrap.Proofs.Run.Learned
import ClusterBootstrap.Proofs.Run.Order
import ClusterBootstrap.Proofs.Run.Policy
import ClusterBootstrap.Proofs.Run.Rejection
import ClusterBootstrap.Proofs.Run.Strict
import ClusterBootstrap.Proofs.Run.Success
import ClusterBootstrap.Proofs.Run.Table
import ClusterBootstrap.Proofs.Run.View
import ClusterBootstrap.Proofs.Settings.Documents
import ClusterBootstrap.Proofs.Settings.Loading
import ClusterBootstrap.Proofs.Settings.Roles
import ClusterBootstrap.Proofs.Settings.Validity
import ClusterBootstrap.Proofs.Topology.RoundTrip
import ClusterBootstrap.Proofs.Wire.Assignment
import ClusterBootstrap.Proofs.Wire.ClusterState
