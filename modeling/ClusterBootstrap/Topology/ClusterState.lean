import ClusterBootstrap.Topology.Failover
import ClusterBootstrap.Topology.RoleSet

/-!
# The view of the cluster

What the queried endpoint tells about the cluster as a whole and about itself.
-/

namespace ClusterBootstrap

/-- The cluster as seen from the queried endpoint. -/
structure ClusterState where
  /-- The uri the endpoint knows itself by; empty when it reports none. -/
  selfUri : String
  selfUuid : String
  failover : FailoverMode
  /-- The roles that can be assigned. -/
  knownRoles : RoleSet
  canBootstrapVshard : Bool
  vshardBucketCount : UInt64
  deriving DecidableEq, Inhabited

namespace ClusterState

/-- Whether a role can be assigned. -/
def knowsRole (state : ClusterState) (role : String) : Bool :=
  state.knownRoles.contains role

/-- A state as JSON. -/
def toJson (state : ClusterState) : Json :=
  .object [
    ("self_uri", .string state.selfUri), ("self_uuid", .string state.selfUuid),
    ("failover_mode", state.failover.toJson), ("known_roles", state.knownRoles.toJson),
    ("can_bootstrap_vshard", .bool state.canBootstrapVshard),
    ("vshard_bucket_count", .integer state.vshardBucketCount.toNat)]

open Json.Fields in
/-- Reads what `toJson` writes. -/
def decode : Json.Decoder ClusterState :=
  record "ClusterState" 6 <|
    ClusterState.mk <$> required "self_uri" Json.Decoder.string
      <*> required "self_uuid" Json.Decoder.string
      <*> required "failover_mode" FailoverMode.decode
      <*> required "known_roles" RoleSet.decode
      <*> required "can_bootstrap_vshard" Json.Decoder.bool
      <*> required "vshard_bucket_count" Json.Decoder.uint64

end ClusterState

end ClusterBootstrap
