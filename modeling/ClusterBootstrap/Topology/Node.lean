import ClusterBootstrap.Json.Decoder
import ClusterBootstrap.Text.Quoted

/-!
# Cluster members

A node is known by its advertised `host:port`.  What else the control plane tells about it may be
absent, and absent is not the same as empty.
-/

namespace ClusterBootstrap

/-- One discovered member of the cluster. -/
structure Node where
  /-- Advertised `host:port`. -/
  uri : String
  aliasName : Option String
  status : Option String
  uuid : Option String
  message : Option String
  /-- The replicaset the node belongs to. -/
  replicaset : Option String
  deriving DecidableEq, Repr, Inhabited

namespace Node

/-- A node of which only the uri is known. -/
def ofUri (uri : String) : Node := ⟨uri, none, none, none, none, none⟩

/-- The node with an alias. -/
def withAlias (node : Node) (name : String) : Node := { node with aliasName := some name }

/-- The node with a status. -/
def withStatus (node : Node) (status : String) : Node := { node with status := some status }

/-- The node with a uuid. -/
def withUuid (node : Node) (uuid : String) : Node := { node with uuid := some uuid }

/-- The node as a member of a replicaset. -/
def withReplicaset (node : Node) (replicaset : String) : Node :=
  { node with replicaset := some replicaset }

/-- A node that already belongs to a replicaset has been joined before. -/
def isJoined (node : Node) : Bool := node.replicaset.isSome

/-- A label and the value it stands for, behind a space; nothing for no value. -/
def labelled (label : String) : Option String → String
  | some value => " " ++ label ++ "=" ++ value
  | none => ""

/-- The line that shows a node: its uri and then every known property.  The message alone is quoted,
and left out when it is empty. -/
def display (node : Node) : String :=
  node.uri ++ labelled "alias" node.aliasName ++ labelled "status" node.status ++
    labelled "uuid" node.uuid ++ labelled "replicaset" node.replicaset ++
    labelled "message" ((node.message.filter fun m => !m.isEmpty).map Text.quoted)

/-- A node as JSON, absent properties as null. -/
def toJson (node : Node) : Json :=
  .object [
    ("uri", .string node.uri), ("alias", .ofOption node.aliasName), ("status", .ofOption node.status),
    ("uuid", .ofOption node.uuid), ("message", .ofOption node.message),
    ("replicaset_id", .ofOption node.replicaset)]

open Json.Fields in
/-- Reads what `toJson` writes. -/
def decode : Json.Decoder Node :=
  record "NodeDescription" 6 <|
    Node.mk <$> required "uri" Json.Decoder.string
      <*> optional "alias" Json.Decoder.string
      <*> optional "status" Json.Decoder.string
      <*> optional "uuid" Json.Decoder.string
      <*> optional "message" Json.Decoder.string
      <*> optional "replicaset_id" Json.Decoder.string

end Node

end ClusterBootstrap
