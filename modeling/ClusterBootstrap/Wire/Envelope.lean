import ClusterBootstrap.Topology.Assignment

/-!
# Response envelopes

Every response is an envelope: an object whose member `data` holds the result and whose member `errors`,
if there is one, lists what went wrong.
-/

namespace ClusterBootstrap.Wire

/-- The result part of an envelope; a null one counts as absent. -/
def data? (envelope : Json) : Option Json :=
  (envelope.get? "data").filter fun data => !data.isNull

/-- The text of one entry of the error list. -/
def errorText? (entry : Json) : Option String :=
  (entry.get? "message").bind Json.string?

/-- The first text in the error list of an envelope; entries without one are skipped. -/
def firstErrorMessage (envelope : Json) : Option String :=
  ((envelope.get? "errors").bind Json.items?).bind fun entries => entries.findSome? errorText?

/-- The member of `data` that holds the result of an assignment. -/
def assignmentKey : String := "join_server"

/-- Whether the result part of an envelope is an object with the result of an assignment. -/
def hasAssignment (envelope : Json) : Bool :=
  ((envelope.get? "data").map (Json.hasMember assignmentKey)).getD false

/-- An assignment is accepted if its result is there, whatever it is, and no error list is. -/
def classify (envelope : Json) : AssignmentResult :=
  { accepted := hasAssignment envelope && !envelope.hasMember "errors"
    envelope := envelope }

@[simp] theorem envelope_classify (envelope : Json) : (classify envelope).envelope = envelope := rfl

end ClusterBootstrap.Wire
