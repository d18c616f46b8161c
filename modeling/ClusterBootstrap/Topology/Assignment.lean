import ClusterBootstrap.Topology.Node

/-!
# Role assignments

An assignment binds an ordered list of roles to one node.  The list is never empty, and the request
type holds the proof of it.
-/

namespace ClusterBootstrap

/-- A request to bind roles to a node, in order. -/
structure AssignmentRequest where
  node : Node
  roles : List String
  roles_ne_nil : roles ≠ []

namespace AssignmentRequest

/-- A request for the given roles, unless there are none. -/
def ofRoles? (node : Node) (roles : List String) : Option AssignmentRequest :=
  if h : roles ≠ [] then some ⟨node, roles, h⟩ else none

end AssignmentRequest

/-- What the control plane made of an assignment. -/
structure AssignmentResult where
  accepted : Bool
  /-- The response as it came. -/
  envelope : Json

end ClusterBootstrap
