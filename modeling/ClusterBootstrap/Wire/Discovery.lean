import ClusterBootstrap.Error
import ClusterBootstrap.Topology.ClusterState
import ClusterBootstrap.Wire.Operation

/-!
# Answers of the queries

The two queries answer with the listed servers and with the state of the cluster.  Control planes of
all ages answer, so nearly everything may be absent and then has a default; what is there must have its
form.
-/

namespace ClusterBootstrap.Wire

open Json (Decoder)
open Json.Fields

/-! ## Servers -/

/-- A reference to a replicaset, whose uuid may be absent. -/
def decodeReplicasetRef : Decoder (Option String) :=
  record "WireReplicasetRef" 1 <|
    id <$> defaulted "uuid" (Decoder.option Decoder.string) none

/-- One listed server. -/
def decodeServer : Decoder Node :=
  record "WireServer" 6 <|
    (fun uri aliasName status uuid message replicaset =>
        (⟨uri, aliasName, status, uuid, message, replicaset.join⟩ : Node))
      <$> required "uri" Decoder.string
      <*> defaulted "alias" (Decoder.option Decoder.string) none
      <*> defaulted "status" (Decoder.option Decoder.string) none
      <*> defaulted "uuid" (Decoder.option Decoder.string) none
      <*> defaulted "message" (Decoder.option Decoder.string) none
      <*> defaulted "replicaset" (Decoder.option decodeReplicasetRef) none

/-- The result part of the answer that lists the servers. -/
def decodeServerList : Decoder (List Node) :=
  record "ServerListData" 1 <|
    id <$> required "serverList" (Decoder.list decodeServer)

/-! ## Cluster state -/

/-- What the endpoint tells about itself: its uri and its uuid. -/
def decodeSelf : Decoder (Option String × Option String) :=
  record "WireSelf" 2 <|
    Prod.mk <$> defaulted "uri" (Decoder.option Decoder.string) none
      <*> defaulted "uuid" (Decoder.option Decoder.string) none

/-- The failover mode: an on/off flag, or a name. -/
def decodeFailover : Decoder FailoverMode
  | .bool enabled => .ok (.ofFlag enabled)
  | .string name => .ok (.ofName name)
  | _ => .error (.noAlternative "WireFailover")

/-- The state of the cluster, with defaults for what is absent. -/
def decodeCluster : Decoder ClusterState :=
  record "WireCluster" 5 <|
    (fun self failover knownRoles canBootstrap bucketCount =>
        { selfUri := (self.bind Prod.fst).getD ""
          selfUuid := (self.bind Prod.snd).getD ""
          failover := failover.getD .disabled
          knownRoles := .ofList knownRoles
          canBootstrapVshard := canBootstrap
          vshardBucketCount := bucketCount : ClusterState })
      <$> defaulted "self" (Decoder.option decodeSelf) none
      <*> defaulted "failover" (Decoder.option decodeFailover) none
      <*> defaulted "known_roles" (Decoder.list Decoder.string) []
      <*> defaulted "can_bootstrap_vshard" Decoder.bool false
      <*> defaulted "vshard_bucket_count" Decoder.uint64 0

/-- The result part of the answer that tells the state of the cluster. -/
def decodeClusterData : Decoder (Option ClusterState) :=
  record "ClusterData" 1 <|
    id <$> defaulted "cluster" (Decoder.option decodeCluster) none

/-! ## Envelopes -/

/-- Reads the result part of an answer. -/
def decodeData {α : Type} (operation : Operation) (decode : Decoder α) (envelope : Json) :
    Except BootstrapError α :=
  match data? envelope with
  | none => .error (.missingData operation.name envelope)
  | some data => (decode data).mapError fun fault => .malformed operation.name fault.text

/-- The listed servers, in the order of the answer. -/
def decodeServers (envelope : Json) : Except BootstrapError (List Node) :=
  decodeData .getServers decodeServerList envelope

/-- The state of the cluster; an answer without one counts as an answer without a result. -/
def decodeClusterState (envelope : Json) : Except BootstrapError ClusterState := do
  match ← decodeData .getClusterState decodeClusterData envelope with
  | some state => return state
  | none => throw (.missingData Operation.getClusterState.name envelope)

end ClusterBootstrap.Wire
