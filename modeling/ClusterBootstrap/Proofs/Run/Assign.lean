import ClusterBootstrap.Proofs.Run.Steps
import ClusterBootstrap.Proofs.Topology.RoundTrip

/-!
# What an assignment comes to

An assignment goes wrong for want of a known role or of any role at all, and then nothing is sent.
Otherwise one call is made with exactly what was asked for, and its answer is passed on, but that a result
which was not accepted becomes an error.  The message of this error tells the first reason that the control
plane gave in words.
-/

namespace ClusterBootstrap

/-! ## The reason of a rejection -/

namespace Wire

/-- An entry of an error list says this. -/
def EntryText (entry : Json) (text : String) : Prop :=
  ∃ members, entry = .object members ∧ members.lookup "message" = some (.string text)

/-- The first entry of an error list that says anything says this; those before it are skipped. -/
def FirstErrorText (envelope : Json) (text : String) : Prop :=
  ∃ members before entry after, envelope = .object members ∧
    members.lookup "errors" = some (.array (before ++ entry :: after)) ∧
    (∀ earlier ∈ before, ∀ other, ¬ EntryText earlier other) ∧ EntryText entry text

/-- What the error of a rejected assignment gives as the reason. -/
inductive RejectionReason (envelope : Json) : String → Prop where
  | told {text : String} (hText : FirstErrorText envelope text) : RejectionReason envelope text
  | untold (hNone : ∀ text, ¬ FirstErrorText envelope text) :
    RejectionReason envelope "no `join_server` result in response"

theorem errorText?_eq_some_iff {entry : Json} {text : String} :
    errorText? entry = some text ↔ EntryText entry text := by
  unfold errorText? EntryText
  rw [Option.bind_eq_some_iff]
  constructor
  · rintro ⟨value, hValue, hText⟩
    cases entry with
    | object members =>
      cases value with
      | string s =>
        cases hText
        exact ⟨members, rfl, hValue⟩
      | _ => cases hText
    | _ => cases hValue
  · rintro ⟨members, rfl, hText⟩
    exact ⟨.string text, hText, rfl⟩

theorem errorText?_eq_none_iff {entry : Json} :
    errorText? entry = none ↔ ∀ text, ¬ EntryText entry text := by
  simp only [← errorText?_eq_some_iff, Option.eq_none_iff_forall_ne_some, ne_eq]

/-- The error list of an envelope is an array under its name. -/
theorem errors_eq_some_iff {envelope : Json} {entries : List Json} :
    (envelope.get? "errors").bind Json.items? = some entries ↔
      ∃ members, envelope = .object members ∧ members.lookup "errors" = some (.array entries) := by
  rw [Option.bind_eq_some_iff]
  constructor
  · rintro ⟨list, hList, hEntries⟩
    cases envelope with
    | object members =>
      cases list with
      | array items =>
        cases hEntries
        exact ⟨members, rfl, hList⟩
      | _ => cases hEntries
    | _ => cases hList
  · rintro ⟨members, rfl, hErrors⟩
    exact ⟨.array entries, hErrors, rfl⟩

theorem firstErrorMessage_eq_some_iff {envelope : Json} {text : String} :
    firstErrorMessage envelope = some text ↔ FirstErrorText envelope text := by
  unfold firstErrorMessage FirstErrorText
  rw [Option.bind_eq_some_iff]
  simp only [errors_eq_some_iff, List.findSome?_eq_some_iff, errorText?_eq_some_iff,
    errorText?_eq_none_iff]
  constructor
  · rintro ⟨_, ⟨members, hEnvelope, hErrors⟩, before, entry, after, rfl, hText, hBefore⟩
    exact ⟨members, before, entry, after, hEnvelope, hErrors, hBefore, hText⟩
  · rintro ⟨members, before, entry, after, hEnvelope, hErrors, hBefore, hText⟩
    exact ⟨_, ⟨members, hEnvelope, hErrors⟩, before, entry, after, rfl, hText, hBefore⟩

theorem rejectionReason_iff {envelope : Json} {reason : String} :
    RejectionReason envelope reason ↔
      (firstErrorMessage envelope).getD "no `join_server` result in response" = reason := by
  cases hText : firstErrorMessage envelope with
  | some text =>
    have hTold := firstErrorMessage_eq_some_iff.mp hText
    constructor
    · intro hReason
      cases hReason with
      | told hOther =>
        have hSame := firstErrorMessage_eq_some_iff.mpr hOther
        exact Option.some.inj (hText.symm.trans hSame)
      | untold hNone => exact absurd hTold (hNone text)
    · rintro rfl
      exact .told hTold
  | none =>
    have hNone : ∀ text, ¬ FirstErrorText envelope text := by
      intro text hTold
      cases hText.symm.trans (firstErrorMessage_eq_some_iff.mpr hTold)
    constructor
    · intro hReason
      cases hReason with
      | told hTold => exact absurd hTold (hNone _)
      | untold _ => rfl
    · rintro rfl
      exact .untold hNone

end Wire

theorem message_rejected (roles : List String) (nodeUri : String) (envelope : Json) :
    (BootstrapError.rejected roles nodeUri envelope).message =
      "failed to assign [" ++ ", ".intercalate roles ++ "] to " ++ nodeUri ++ ": " ++
        (Wire.firstErrorMessage envelope).getD "no `join_server` result in response" := by
  have hBrackets : "failed to assign " ++ BootstrapError.bracketed roles ++ " to " =
      "failed to assign [" ++ ", ".intercalate roles ++ "] to " := by
    have hOpen : "failed to assign [" = "failed to assign " ++ "[" := by decide
    have hClose : "] to " = "]" ++ " to " := by decide
    rw [BootstrapError.bracketed, hOpen, hClose]
    simp only [String.append_assoc]
  rw [← hBrackets]
  rfl

/-! ## The roles that are asked for -/

/-- The first of the requested roles that the cluster does not know. -/
def FirstUnknown (roles : List String) (state : ClusterState) (role : String) : Prop :=
  ∃ before after, roles = before ++ role :: after ∧
    (∀ earlier ∈ before, earlier ∈ state.knownRoles.names) ∧ role ∉ state.knownRoles.names

theorem knowsRole_eq_false_iff {state : ClusterState} {role : String} :
    state.knowsRole role = false ↔ role ∉ state.knownRoles.names := by
  rw [← Bool.not_eq_true]
  exact not_congr RoleSet.contains_iff

theorem find?_unknown_eq_some_iff {roles : List String} {state : ClusterState} {role : String} :
    (roles.find? fun role => !state.knowsRole role) = some role ↔ FirstUnknown roles state role := by
  rw [List.find?_eq_some_iff_append]
  simp only [Bool.not_not, Bool.not_eq_true', knowsRole_eq_false_iff, FirstUnknown]
  constructor
  · rintro ⟨hUnknown, before, after, hRoles, hBefore⟩
    exact ⟨before, after, hRoles, fun role hMem => RoleSet.contains_iff.mp (hBefore role hMem),
      hUnknown⟩
  · rintro ⟨before, after, hRoles, hBefore, hUnknown⟩
    exact ⟨hUnknown, before, after, hRoles,
      fun role hMem => RoleSet.contains_iff.mpr (hBefore role hMem)⟩

theorem FirstUnknown.checkKnown_eq {roles : List String} {state : ClusterState} {role : String}
    (h : FirstUnknown roles state role) :
    checkKnown roles state = .error (.unknownRole role state.knownRoles.names) := by
  rw [checkKnown, find?_unknown_eq_some_iff.mpr h]

/-! ## The course of an assignment -/

variable {σ : Type}

/-- A run that has sent an assignment: one more call, and the records that go with it. -/
def Progress.sent (plane : ControlPlane σ) (request : AssignmentRequest) (p : Progress σ) :
    Progress σ :=
  { p with
    plane := (plane.assign request p.plane).next
    calls := p.calls ++ [.assign request]
    log := p.log ++ assigningRecord request.node request.roles ::
      (plane.assign request p.plane).log }

/-- How an assignment goes from a given progress: what it comes to, and the progress behind it. -/
inductive AssignmentCourse (plane : ControlPlane σ) (node : Node) (roles : List String)
    (state : ClusterState) (p : Progress σ) :
    Except BootstrapError AssignmentResult → Progress σ → Prop where
  | unknownRole {role : String} (hRole : FirstUnknown roles state role) :
    AssignmentCourse plane node roles state p
      (.error (.unknownRole role state.knownRoles.names)) p
  | noRoles (hRoles : roles = []) :
    AssignmentCourse plane node roles state p
      (.error (.configuration ("role assignment for " ++ node.uri ++ " requires at least one role")))
      p
  | unanswered {request : AssignmentRequest} {e : BootstrapError} (hNode : request.node = node)
      (hRoles : request.roles = roles) (hKnown : ∀ role ∈ roles, role ∈ state.knownRoles.names)
      (hAnswer : (plane.assign request p.plane).answer = .error e) :
    AssignmentCourse plane node roles state p (.error e) (p.sent plane request)
  | rejected {request : AssignmentRequest} {result : AssignmentResult}
      (hNode : request.node = node) (hRoles : request.roles = roles)
      (hKnown : ∀ role ∈ roles, role ∈ state.knownRoles.names)
      (hAnswer : (plane.assign request p.plane).answer = .ok result)
      (hRejected : result.accepted = false) :
    AssignmentCourse plane node roles state p
      (.error (.rejected roles node.uri result.envelope)) (p.sent plane request)
  | accepted {request : AssignmentRequest} {result : AssignmentResult}
      (hNode : request.node = node) (hRoles : request.roles = roles)
      (hKnown : ∀ role ∈ roles, role ∈ state.knownRoles.names)
      (hAnswer : (plane.assign request p.plane).answer = .ok result)
      (hAccepted : result.accepted = true) :
    AssignmentCourse plane node roles state p (.ok result) (p.sent plane request)

variable {plane : ControlPlane σ} {node : Node} {roles : List String} {state : ClusterState}
  {p : Progress σ}

/-- Known roles are sent, if there are any, and the answer is judged. -/
theorem run_assignRoles_of_known (plane : ControlPlane σ) (p : Progress σ)
    (request : AssignmentRequest) (hKnown : ∀ role ∈ request.roles, role ∈ state.knownRoles.names) :
    (assignRoles plane request.node request.roles state).run p =
      ((plane.assign request p.plane).answer.bind (acceptedOnly request), p.sent plane request) := by
  have hChecked : checkKnown request.roles state = .ok () :=
    checkKnown_eq_ok_iff.mpr fun role hMem => RoleSet.contains_iff.mpr (hKnown role hMem)
  rw [run_assignRoles, hChecked, assignmentRequest_of_ne_nil request.node request.roles_ne_nil]
  rfl

/-- An assignment goes as its course says. -/
theorem AssignmentCourse.run_eq {answer : Except BootstrapError AssignmentResult} {q : Progress σ}
    (h : AssignmentCourse plane node roles state p answer q) :
    (assignRoles plane node roles state).run p = (answer, q) := by
  cases h with
  | unknownRole hRole => rw [run_assignRoles, hRole.checkKnown_eq]
  | noRoles hRoles =>
    subst hRoles
    rfl
  | unanswered hNode hRoles hKnown hAnswer =>
    subst hNode hRoles
    rw [run_assignRoles_of_known plane p _ hKnown, hAnswer]
    rfl
  | rejected hNode hRoles hKnown hAnswer hRejected =>
    subst hNode hRoles
    rw [run_assignRoles_of_known plane p _ hKnown, hAnswer, Except.bind,
      acceptedOnly_of_not_accepted _ hRejected]
  | accepted hNode hRoles hKnown hAnswer hAccepted =>
    subst hNode hRoles
    rw [run_assignRoles_of_known plane p _ hKnown, hAnswer, Except.bind,
      acceptedOnly_of_accepted _ hAccepted]

/-- Every assignment has a course. -/
theorem exists_assignmentCourse (plane : ControlPlane σ) (node : Node) (roles : List String)
    (state : ClusterState) (p : Progress σ) :
    ∃ answer q, AssignmentCourse plane node roles state p answer q := by
  cases hFind : roles.find? fun role => !state.knowsRole role with
  | some role => exact ⟨_, _, .unknownRole (find?_unknown_eq_some_iff.mp hFind)⟩
  | none =>
  have hKnown : ∀ role ∈ roles, role ∈ state.knownRoles.names := by
    intro role hMem
    have hChecked := List.find?_eq_none.mp hFind role hMem
    simpa [ClusterState.knowsRole, RoleSet.contains_iff] using hChecked
  by_cases hRoles : roles = []
  · exact ⟨_, _, .noRoles hRoles⟩
  · -- the request is sent, and its answer decides
    cases hAnswer : (plane.assign ⟨node, roles, hRoles⟩ p.plane).answer with
    | error e => exact ⟨_, _, .unanswered rfl rfl hKnown hAnswer⟩
    | ok result =>
      cases hAccepted : result.accepted with
      | false => exact ⟨_, _, .rejected rfl rfl hKnown hAnswer hAccepted⟩
      | true => exact ⟨_, _, .accepted rfl rfl hKnown hAnswer hAccepted⟩

/-- An assignment fails with the first role that is not known, and else for want of roles, without a call.
Otherwise it makes one call, with this node and these roles, and passes the answer on, but that a result that
was not accepted becomes an error with the response as it came.  The known roles are told in the order of
their bytes, and the message of a rejection gives the first reason that the response has in words. -/
theorem assignRoles_course (plane : ControlPlane σ) (node : Node) (roles : List String)
    (state : ClusterState) (p : Progress σ) :
    (∀ answer q, (assignRoles plane node roles state).run p = (answer, q) ↔
      AssignmentCourse plane node roles state p answer q) ∧
    BytesAscend state.knownRoles.names ∧
    (∀ role, role ∈ state.knownRoles.names ↔ state.knowsRole role = true) ∧
    ∀ envelope message, (BootstrapError.rejected roles node.uri envelope).message = message ↔
      ∃ reason, Wire.RejectionReason envelope reason ∧
        message = "failed to assign [" ++ ", ".intercalate roles ++ "] to " ++ node.uri ++ ": " ++
          reason := by
  refine ⟨fun answer q => ⟨fun hRun => ?_, AssignmentCourse.run_eq⟩,
    state.knownRoles.bytesAscend_names, fun role => RoleSet.contains_iff.symm,
    fun envelope message => ?_⟩
  · -- the assignment has only one outcome, so it is that of whichever course there is
    obtain ⟨answer', q', hCourse⟩ := exists_assignmentCourse plane node roles state p
    cases hRun.symm.trans hCourse.run_eq
    exact hCourse
  · rw [message_rejected]
    constructor
    · intro hMessage
      exact ⟨_, Wire.rejectionReason_iff.mpr rfl, hMessage.symm⟩
    · rintro ⟨reason, hReason, hMessage⟩
      rw [Wire.rejectionReason_iff.mp hReason, hMessage]

end ClusterBootstrap
