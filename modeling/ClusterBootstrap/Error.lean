import ClusterBootstrap.Wire.Envelope

/-!
# Errors of a bootstrap run

Nothing is recovered from: every error ends the run, and carries enough to be understood without
running again.
-/

namespace ClusterBootstrap

/-- Why a run could not go on. -/
inductive BootstrapError where
  /-- A query or mutation did not get a complete answer. -/
  | transport (endpoint message : String)
  /-- An answer has no result part. -/
  | missingData (operation : String) (envelope : Json)
  /-- An answer does not have the form the operation calls for. -/
  | malformed (operation message : String)
  /-- The liveness probe failed. -/
  | unreachable (endpoint message : String)
  /-- A requested role is not among those the cluster knows. -/
  | unknownRole (role : String) (knownRoles : List String)
  /-- The control plane did not accept an assignment. -/
  | rejected (roles : List String) (nodeUri : String) (envelope : Json)
  /-- The control plane lists no servers at all. -/
  | noServers
  /-- The endpoint's own uri is not among the listed servers. -/
  | selfNotListed (selfUri : String) (listed : List String)
  /-- The configuration can never lead to an assignment. -/
  | configuration (message : String)

namespace BootstrapError

/-- Texts between brackets, divided by a comma and a space. -/
def bracketed (texts : List String) : String :=
  "[" ++ ", ".intercalate texts ++ "]"

/-- The wording of an error. -/
def message : BootstrapError → String
  | transport endpoint message => "transport error talking to " ++ endpoint ++ ": " ++ message
  | missingData operation _ => operation ++ ": response envelope has no `data` field"
  | malformed operation message => operation ++ ": malformed response: " ++ message
  | unreachable endpoint message =>
    "control plane at " ++ endpoint ++ " is not reachable: " ++ message
  | unknownRole role knownRoles =>
    "role `" ++ role ++ "` is not a known role (known: " ++ bracketed knownRoles ++ ")"
  | rejected roles nodeUri envelope =>
    "failed to assign " ++ bracketed roles ++ " to " ++ nodeUri ++ ": " ++
      (Wire.firstErrorMessage envelope).getD "no `join_server` result in response"
  | noServers => "control plane reported no servers"
  | selfNotListed selfUri listed =>
    "self uri `" ++ selfUri ++ "` is not among discovered servers " ++ bracketed listed
  | configuration message => "configuration error: " ++ message

/-- The response that came with an error, if the control plane sent one worth showing. -/
def payload? : BootstrapError → Option Json
  | missingData _ envelope => some envelope
  | rejected _ _ envelope => some envelope
  | _ => none

end BootstrapError

end ClusterBootstrap
