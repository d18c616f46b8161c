import ClusterBootstrap.Error
import ClusterBootstrap.Log.Record
import ClusterBootstrap.Topology.ClusterState

/-!
# Control planes

A control plane answers four calls.  An answer may be anything, an error included, and may depend on the
calls before it through a state of the plane's own; a call may also leave log records.
-/

namespace ClusterBootstrap

/-- What one call did: its answer, the records it left, and the state of the plane after it. -/
structure Outcome (σ α : Type) where
  answer : Except BootstrapError α
  log : List LogRecord := []
  next : σ
  /-- Only the code that makes the call writes during it. -/
  fromClient : ∀ record ∈ log, record.source = .client := by simp

/-- A control plane with states of type `σ`. -/
structure ControlPlane (σ : Type) where
  /-- `host:port` of the plane. -/
  endpoint : String
  /-- The liveness probe. -/
  probe : σ → Outcome σ Unit
  /-- The servers of the cluster, in the plane's order. -/
  servers : σ → Outcome σ (List Node)
  /-- The cluster as the endpoint sees it. -/
  clusterState : σ → Outcome σ ClusterState
  /-- The only call that changes the cluster. -/
  assign : AssignmentRequest → σ → Outcome σ AssignmentResult

/-- A call that was made. -/
inductive Call where
  | probe
  | servers
  | clusterState
  | assign (request : AssignmentRequest)

end ClusterBootstrap
