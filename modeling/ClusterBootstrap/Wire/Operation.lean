import ClusterBootstrap.Json.Printer
import ClusterBootstrap.Topology.Assignment

/-!
# Operations of the control plane

Two queries and one mutation.  A request is a JSON document with the text of the operation and, for the
mutation, its variables: the full description of the node, shaped as the control plane itself reports
it, and the roles.
-/

namespace ClusterBootstrap.Wire

/-- An operation of the control plane. -/
inductive Operation where
  | getServers
  | getClusterState
  | assignRole
  deriving DecidableEq, Repr

namespace Operation

/-- The name under which an operation appears in messages. -/
def name : Operation → String
  | getServers => "getServers"
  | getClusterState => "getClusterState"
  | assignRole => "assignRole"

/-- The text sent for an operation. -/
def query : Operation → String
  | getServers =>
    "\n    query getServers \x7b\n" ++
    "        serverList: servers \x7b\n" ++
    "            uuid\n" ++
    "            alias\n" ++
    "            uri\n" ++
    "            status\n" ++
    "            message\n" ++
    "            replicaset \x7b\n" ++
    "                uuid\n" ++
    "            \x7d\n" ++
    "        \x7d\n" ++
    "    \x7d\n"
  | getClusterState =>
    "\n    query getClusterState \x7b\n" ++
    "        cluster \x7b\n" ++
    "            self \x7b\n" ++
    "                uri\n" ++
    "                uuid\n" ++
    "            \x7d\n" ++
    "            failover\n" ++
    "            known_roles\n" ++
    "            can_bootstrap_vshard\n" ++
    "            vshard_bucket_count\n" ++
    "        \x7d\n" ++
    "    \x7d\n"
  | assignRole =>
    "\n    mutation assignRole($uri: String!, $roles: [String!]) \x7b\n" ++
    "        join_server(\n" ++
    "            uri: $uri\n" ++
    "            roles: $roles\n" ++
    "        )\n" ++
    "    \x7d\n"

end Operation

/-- A replicaset as the control plane reports it. -/
def replicasetRef : Option String → Json
  | some uuid => .object [("uuid", .string uuid)]
  | none => .null

/-- The variables of an assignment. -/
def arguments (request : AssignmentRequest) : Json :=
  let node := request.node
  .object [
    ("uri", .string node.uri), ("alias", .ofOption node.aliasName), ("status", .ofOption node.status),
    ("uuid", .ofOption node.uuid), ("message", .ofOption node.message),
    ("replicaset", replicasetRef node.replicaset), ("roles", .strings request.roles)]

/-- The document of a query, which has no variables. -/
def queryDocument (operation : Operation) : Json :=
  .object [("query", .string operation.query)]

/-- The document of an assignment. -/
def assignmentDocument (request : AssignmentRequest) : Json :=
  .object [("query", .string Operation.assignRole.query), ("variables", arguments request)]

/-- The body of the request for all servers. -/
def serversBody : String := (queryDocument .getServers).compact

/-- The body of the request for the state of the cluster. -/
def clusterStateBody : String := (queryDocument .getClusterState).compact

/-- The body of an assignment. -/
def assignmentBody (request : AssignmentRequest) : String := (assignmentDocument request).compact

end ClusterBootstrap.Wire
