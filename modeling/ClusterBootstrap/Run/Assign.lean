import ClusterBootstrap.Run.Progress

/-!
# Assigning roles

Roles are checked against those the cluster knows before anything is sent.  One call then makes the
assignment, and is never made again.
-/

namespace ClusterBootstrap

/-- Checks that the cluster knows every role, and reports the first one that it does not. -/
def checkKnown (roles : List String) (state : ClusterState) : Except BootstrapError Unit :=
  match roles.find? fun role => !state.knowsRole role with
  | some role => .error (.unknownRole role state.knownRoles.names)
  | none => .ok ()

/-- A request for the given roles, which must not be none. -/
def assignmentRequest (node : Node) (roles : List String) :
    Except BootstrapError AssignmentRequest :=
  match AssignmentRequest.ofRoles? node roles with
  | some request => .ok request
  | none =>
    .error (.configuration
      ("role assignment for " ++ node.uri ++ " requires at least one role"))

/-- The result of an assignment, or the error of one that was not accepted. -/
def acceptedOnly (request : AssignmentRequest) (result : AssignmentResult) :
    Except BootstrapError AssignmentResult :=
  if result.accepted then .ok result
  else .error (.rejected request.roles request.node.uri result.envelope)

/-- The record of an assignment that is about to be sent. -/
def assigningRecord (node : Node) (roles : List String) : LogRecord :=
  { level := .info, source := .assigner
    text := "Assigning " ++ Text.quotedList roles ++ " to " ++ node.uri }

/-- Assigns roles to a node. -/
def assignRoles {σ : Type} (plane : ControlPlane σ) (node : Node) (roles : List String)
    (state : ClusterState) : Run σ AssignmentResult := do
  checkKnown roles state
  let request ← assignmentRequest node roles
  Run.write [assigningRecord node roles]
  let result ← Run.perform (.assign request) (plane.assign request)
  acceptedOnly request result

end ClusterBootstrap
