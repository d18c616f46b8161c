import ClusterBootstrap.Proofs.Run.Steps

/-!
# The gates of a run

A run passes a row of gates: its settings, the three queries, the choice of a node, the known roles, the
assignment and its verdict.  `FailsAt` says at which gate a run fails and with which error, and
`Completes` that it fails at none.  Both are told from the settings and the answers alone, and
`exists_failsAt_or_completes` says that they cover every run.
-/

namespace ClusterBootstrap

variable {σ : Type}

/-! ## The answers of a run -/

namespace ControlPlane

/-- What the probe of a run comes to. -/
def probed (plane : ControlPlane σ) (start : σ) : Outcome σ Unit :=
  plane.probe start

/-- What the query for the servers comes to, after the probe. -/
def listed (plane : ControlPlane σ) (start : σ) : Outcome σ (List Node) :=
  plane.servers (plane.probed start).next

/-- What the query for the state comes to, after the one for the servers. -/
def observed (plane : ControlPlane σ) (start : σ) : Outcome σ ClusterState :=
  plane.clusterState (plane.listed start).next

/-- What an assignment comes to, after both queries. -/
def assigned (plane : ControlPlane σ) (start : σ) (request : AssignmentRequest) :
    Outcome σ AssignmentResult :=
  plane.assign request (plane.observed start).next

end ControlPlane

/-- The settings are valid and the control plane is reached. -/
structure Probed (plane : ControlPlane σ) (settings : BootstrapSettings) (start : σ) : Prop where
  valid : settings.validate = .ok ()
  probe : (plane.probed start).answer = .ok ()

/-- Moreover, the servers are listed. -/
structure Listed (plane : ControlPlane σ) (settings : BootstrapSettings) (start : σ)
    (nodes : List Node) : Prop extends Probed plane settings start where
  servers : (plane.listed start).answer = .ok nodes

/-- Moreover, the state of the cluster is told. -/
structure Observed (plane : ControlPlane σ) (settings : BootstrapSettings) (start : σ)
    (nodes : List Node) (state : ClusterState) : Prop
    extends Listed plane settings start nodes where
  clusterState : (plane.observed start).answer = .ok state

/-- Moreover, a node is located. -/
structure Chosen (plane : ControlPlane σ) (settings : BootstrapSettings) (start : σ)
    (nodes : List Node) (state : ClusterState) (located : Located) : Prop
    extends Observed plane settings start nodes state where
  location : locate nodes state settings.fallback = .ok located

/-- Moreover, every role is known, and `request` is the assignment that is due. -/
structure Requested (plane : ControlPlane σ) (settings : BootstrapSettings) (start : σ)
    (nodes : List Node) (state : ClusterState) (located : Located)
    (request : AssignmentRequest) : Prop
    extends Chosen plane settings start nodes state located where
  known : ∀ role ∈ settings.roles, state.knowsRole role = true
  node : request.node = located.node
  roles : request.roles = settings.roles

/-! ## Gates -/

/-- The gates of a run, in order. -/
inductive Gate where
  | settings
  | probe
  | servers
  | clusterState
  | location
  | roles
  | assignment
  | verdict
  deriving DecidableEq, Repr

/-- The phase in which a run stands before a gate. -/
def Gate.phase : Gate → Phase
  | .settings => .idle
  | .probe | .servers | .clusterState | .location => .discovering
  | .roles | .assignment | .verdict => .assigning

/-- A run passes all gates before this one and fails there with this error. -/
inductive FailsAt (plane : ControlPlane σ) (settings : BootstrapSettings) (start : σ) :
    Gate → BootstrapError → Prop where
  | settings {fault : SettingsFault} (hFault : settings.validate = .error fault) :
      FailsAt plane settings start .settings fault.toError
  | probe {e : BootstrapError} (hValid : settings.validate = .ok ())
      (hAnswer : (plane.probed start).answer = .error e) :
      FailsAt plane settings start .probe e
  | servers {e : BootstrapError} (hProbed : Probed plane settings start)
      (hAnswer : (plane.listed start).answer = .error e) :
      FailsAt plane settings start .servers e
  | clusterState {e : BootstrapError} {nodes : List Node}
      (hListed : Listed plane settings start nodes)
      (hAnswer : (plane.observed start).answer = .error e) :
      FailsAt plane settings start .clusterState e
  | location {e : BootstrapError} {nodes : List Node} {state : ClusterState}
      (hObserved : Observed plane settings start nodes state)
      (hLocation : locate nodes state settings.fallback = .error e) :
      FailsAt plane settings start .location e
  | roles {e : BootstrapError} {nodes : List Node} {state : ClusterState} {located : Located}
      (hChosen : Chosen plane settings start nodes state located)
      (hRoles : checkKnown settings.roles state = .error e) :
      FailsAt plane settings start .roles e
  | assignment {e : BootstrapError} {nodes : List Node} {state : ClusterState}
      {located : Located} {request : AssignmentRequest}
      (hRequested : Requested plane settings start nodes state located request)
      (hAnswer : (plane.assigned start request).answer = .error e) :
      FailsAt plane settings start .assignment e
  | verdict {nodes : List Node} {state : ClusterState} {located : Located}
      {request : AssignmentRequest} {result : AssignmentResult}
      (hRequested : Requested plane settings start nodes state located request)
      (hAnswer : (plane.assigned start request).answer = .ok result)
      (hRejected : result.accepted = false) :
      FailsAt plane settings start .verdict
        (.rejected request.roles request.node.uri result.envelope)

/-- A run passes all gates, and this is the result of its assignment. -/
structure Completes (plane : ControlPlane σ) (settings : BootstrapSettings) (start : σ)
    (nodes : List Node) (state : ClusterState) (located : Located)
    (request : AssignmentRequest) (result : AssignmentResult) : Prop
    extends Requested plane settings start nodes state located request where
  answer : (plane.assigned start request).answer = .ok result
  accepted : result.accepted = true

variable {plane : ControlPlane σ} {settings : BootstrapSettings} {start : σ}

/-- The request that is due is the one that the run makes. -/
theorem Requested.assignmentRequest_eq {nodes : List Node} {state : ClusterState}
    {located : Located} {request : AssignmentRequest}
    (hRequested : Requested plane settings start nodes state located request) :
    assignmentRequest located.node settings.roles = .ok request := by
  obtain ⟨node, roles, hRoles⟩ := request
  obtain rfl : node = located.node := hRequested.node
  obtain rfl : roles = settings.roles := hRequested.roles
  exact assignmentRequest_of_ne_nil _ hRoles

/-- A run fails at some gate or passes them all. -/
theorem exists_failsAt_or_completes (plane : ControlPlane σ) (settings : BootstrapSettings)
    (start : σ) :
    (∃ gate e, FailsAt plane settings start gate e) ∨
      ∃ nodes state located request result,
        Completes plane settings start nodes state located request result := by
  -- one gate after the other, in the order of the run; what is passed is kept for the gates behind it
  cases hValid : settings.validate with
  | error fault => exact .inl ⟨_, _, .settings hValid⟩
  | ok =>
  cases hProbe : (plane.probed start).answer with
  | error e => exact .inl ⟨_, _, .probe hValid hProbe⟩
  | ok =>
  have hProbed : Probed plane settings start := ⟨hValid, hProbe⟩
  cases hServers : (plane.listed start).answer with
  | error e => exact .inl ⟨_, _, .servers hProbed hServers⟩
  | ok nodes =>
  have hListed : Listed plane settings start nodes := ⟨hProbed, hServers⟩
  cases hState : (plane.observed start).answer with
  | error e => exact .inl ⟨_, _, .clusterState hListed hState⟩
  | ok state =>
  have hObserved : Observed plane settings start nodes state := ⟨hListed, hState⟩
  cases hLocation : locate nodes state settings.fallback with
  | error e => exact .inl ⟨_, _, .location hObserved hLocation⟩
  | ok located =>
  have hChosen : Chosen plane settings start nodes state located := ⟨hObserved, hLocation⟩
  cases hRoles : checkKnown settings.roles state with
  | error e => exact .inl ⟨_, _, .roles hChosen hRoles⟩
  | ok =>
  -- valid settings have roles, so that a request is there to be sent
  have hRequested : Requested plane settings start nodes state located
      ⟨located.node, settings.roles, BootstrapSettings.roles_ne_nil hValid⟩ :=
    ⟨hChosen, checkKnown_eq_ok_iff.mp hRoles, rfl, rfl⟩
  cases hAnswer : (plane.assigned start _).answer with
  | error e => exact .inl ⟨_, _, .assignment hRequested hAnswer⟩
  | ok result =>
  cases hAccepted : result.accepted with
  | false => exact .inl ⟨_, _, .verdict hRequested hAnswer hAccepted⟩
  | true => exact .inr ⟨_, _, _, _, _, hRequested, hAnswer, hAccepted⟩

end ClusterBootstrap
