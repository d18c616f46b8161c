import ClusterBootstrap.Proofs.Client.Faults
import ClusterBootstrap.Proofs.Client.Requests
import ClusterBootstrap.Proofs.Run.Success

/-!
# What a run over the network sends

A run sends its four requests in one order and stops early if it fails.  Its error tells how far it came.
-/

namespace ClusterBootstrap

open Net

variable {settings : BootstrapSettings} {replies : List Reply} {client : Client}

/-! ## Requests in order -/

/-- The requests that only read: the probe and the two queries. -/
def readRequests (settings : ClientSettings) (probeUrl apiUrl : Url) : List Request :=
  [.getOf settings.userAgent probeUrl,
    .postOf settings.userAgent apiUrl Wire.serversBody,
    .postOf settings.userAgent apiUrl Wire.clusterStateBody]

/-- These requests are the first of the four that a run can make: the ones that only read, and then the
assignment of the roles of the settings to the node that is located and reported. -/
def InOrder (settings : BootstrapSettings) (probeUrl apiUrl : Url) (report : Report)
    (requests : List Request) : Prop :=
  requests <+: readRequests settings.client probeUrl apiUrl ∨
    ∃ (request : AssignmentRequest) (state : ClusterState) (located : Located),
      requests = readRequests settings.client probeUrl apiUrl ++
          [.postOf settings.client.userAgent apiUrl (Wire.assignmentBody request)] ∧
        request.node = located.node ∧ request.roles = settings.roles ∧
        locate report.servers state settings.fallback = .ok located ∧
        report.clusterState = some state ∧ report.bootstrap = some located.node

/-- What the outcome of a run tells about the number of requests that it sent, and about the reply to the
last of them. -/
def Tells (replies : List Reply) (sent : Nat) : Option BootstrapError → Prop
  | some (.unreachable _ _) => sent = 1
  | some (.missingData operation _) =>
    (operation = "getServers" ∧ sent = 2) ∨ (operation = "getClusterState" ∧ sent = 3)
  | some (.malformed operation _) =>
    (operation = "getServers" ∧ sent = 2) ∨ (operation = "getClusterState" ∧ sent = 3) ∨
      (operation = "assignRole" ∧ sent = 4)
  | some (.transport _ _) => (sent = 2 ∨ sent = 3 ∨ sent = 4) ∧ Incomplete replies (sent - 1)
  | some .noServers => sent = 3
  | some (.selfNotListed _ _) => sent = 3
  | some (.unknownRole _ _) => sent = 3
  | some (.rejected _ _ _) => sent = 4
  | some (.configuration _) => False
  | none => sent = 4

/-! ## Errors and the calls before them -/

/-- The place of an operation among the calls of a run.  The probe has the first place, zero. -/
def Wire.Operation.place : Wire.Operation → Nat
  | .getServers => 1
  | .getClusterState => 2
  | .assignRole => 3

/-- An operation that fails in its place has been sent, and nothing behind it. -/
theorem OperationFault.tells {operation : Wire.Operation} {e : BootstrapError}
    (hFault : OperationFault replies operation.place operation e) :
    Tells replies (operation.place + 1) (some e) := by
  cases hFault with
  | transport hIncomplete =>
    refine ⟨?_, hIncomplete⟩
    cases operation <;> simp [Wire.Operation.place]
  | missingData hQuery =>
    cases operation with
    | getServers => exact .inl ⟨rfl, rfl⟩
    | getClusterState => exact .inr ⟨rfl, rfl⟩
    | assignRole => exact absurd rfl hQuery
  | malformed => cases operation <;> simp [Tells, Wire.Operation.name, Wire.Operation.place]

theorem tells_of_locate {nodes : List Node} {state : ClusterState} {policy : FallbackPolicy}
    {e : BootstrapError} (hLocation : locate nodes state policy = .error e) :
    Tells replies 3 (some e) := by
  unfold locate at hLocation
  split at hLocation
  · cases hLocation
  · split at hLocation
    · cases hLocation
      rfl
    · cases hLocation
    · cases hLocation
      rfl

theorem tells_of_checkKnown {roles : List String} {state : ClusterState} {e : BootstrapError}
    (hRoles : checkKnown roles state = .error e) : Tells replies 3 (some e) := by
  unfold checkKnown at hRoles
  split at hRoles
  · cases hRoles
    rfl
  · cases hRoles

/-- The control plane between the calls of a run is where the calls so far have led. -/
theorem foldl_after_readCalls {σ : Type} (plane : ControlPlane σ) (start : σ) :
    [.probe].foldl plane.after start = (plane.probed start).next ∧
      [.probe, .servers].foldl plane.after start = (plane.listed start).next ∧
      readCalls.foldl plane.after start = (plane.observed start).next :=
  ⟨rfl, rfl, rfl⟩

/-- The error of a run tells the number of its calls, each of which is one request. -/
theorem tells_bootstrap (addresses : Addresses client.settings)
    (hValid : settings.validate = .ok ()) (replies : List Reply) :
    Tells replies (bootstrap client.plane settings (.ofReplies replies)).calls.length
      (bootstrap client.plane settings (.ofReplies replies)).report.error := by
  have hUsable := addresses.usable_api
  obtain ⟨hProbe, hServers, hState⟩ :=
    foldl_after_readCalls client.plane (Network.ofReplies replies)
  have hSpent (calls : List Call) :=
    ((served_ofReplies replies).foldl_after addresses calls).toSpent
  obtain ⟨result, p, hCourse⟩ := exists_course client.plane settings (.ofReplies replies)
  rw [hCourse.calls_eq, hCourse.bootstrap_eq]
  -- a course that a call ends shows the error of that call, made where the calls before it led
  cases hCourse with
  | refused hFault => cases hFault.symm.trans hValid
  | unreachable hValid hAnswer =>
    rw [probed_plane] at hAnswer
    obtain ⟨message, rfl⟩ := probe_eq_error hAnswer
    rfl
  | unlisted hProbed hAnswer =>
    rw [listed_plane, ← hProbe] at hAnswer
    have hFault : OperationFault replies Wire.Operation.getServers.place .getServers _ :=
      (hSpent [.probe]).servers_eq_error hUsable hAnswer
    exact hFault.tells
  | unobserved hListed hAnswer =>
    rw [observed_plane, ← hServers] at hAnswer
    have hFault : OperationFault replies Wire.Operation.getClusterState.place .getClusterState _ :=
      (hSpent [.probe, .servers]).clusterState_eq_error hUsable hAnswer
    exact hFault.tells
  | unlocated hObserved hLocation => exact tells_of_locate hLocation
  | unknownRole hChosen hRoles => exact tells_of_checkKnown hRoles
  | unanswered hRequested hAnswer =>
    rw [assigned_plane, ← hState] at hAnswer
    have hFault : OperationFault replies Wire.Operation.assignRole.place .assignRole _ :=
      (hSpent readCalls).assign_eq_error hUsable hAnswer
    exact hFault.tells
  | rejected hRequested hAnswer hRejected => rfl
  | completed hCompletes => rfl

/-- What is reported when the assignment has been sent, whatever it was answered. -/
theorem Requested.report_eq {σ : Type} {plane : ControlPlane σ} {start : σ} {nodes : List Node}
    {state : ClusterState} {located : Located} {request : AssignmentRequest}
    (hRequested : Requested plane settings start nodes state located request) :
    let report := (bootstrap plane settings start).report
    report.servers = nodes ∧ report.clusterState = some state ∧
      report.bootstrap = some located.node := by
  obtain ⟨outcome, noted, hCourse⟩ := hRequested.course
  rw [hCourse.bootstrap_eq]
  cases outcome <;> exact ⟨rfl, rfl, rfl⟩

/-- The calls of a run with valid settings make at least one request, and make them in order. -/
theorem inOrder_bootstrap {σ : Type} (plane : ControlPlane σ) (start : σ)
    (hValid : settings.validate = .ok ()) (addresses : Addresses settings.client) :
    let run := bootstrap plane settings start
    run.calls ≠ [] ∧
      InOrder settings addresses.probe addresses.api run.report
        (run.calls.map addresses.requestOf) := by
  intro run
  have hRead : readCalls.map addresses.requestOf =
      readRequests settings.client addresses.probe addresses.api := rfl
  unfold InOrder
  rw [← hRead]
  rcases calls_cases plane settings start with
    ⟨⟨_, hFault⟩, -⟩ | ⟨-, hCalls⟩ | ⟨-, hCalls⟩ | ⟨-, hCalls⟩ |
    ⟨_, state, located, request, h, hCalls⟩
  · cases hFault.symm.trans hValid
  -- the calls that only read are cut short, and so are their requests
  · have hPrefix : [.probe] <+: readCalls := ⟨[.servers, .clusterState], rfl⟩
    exact ⟨by simp [run, hCalls], .inl (hCalls ▸ hPrefix.map _)⟩
  · have hPrefix : [.probe, .servers] <+: readCalls := ⟨[.clusterState], rfl⟩
    exact ⟨by simp [run, hCalls], .inl (hCalls ▸ hPrefix.map _)⟩
  · exact ⟨by simp [run, hCalls, readCalls], .inl (hCalls ▸ List.prefix_rfl.map _)⟩
  · obtain ⟨hServers, hState, hBootstrap⟩ := h.report_eq
    refine ⟨by simp [run, hCalls], .inr ⟨request, state, located, ?_, h.node, h.roles, ?_, hState,
      hBootstrap⟩⟩
    · rw [hCalls, List.map_append]
      rfl
    · rw [hServers]
      exact h.location

/-- One request alone means that the control plane was not reached. -/
theorem Tells.unreachable_iff {sent : Nat} {error : Option BootstrapError}
    (h : Tells replies sent error) :
    (∃ endpoint message, error = some (.unreachable endpoint message)) ↔ sent = 1 := by
  constructor
  · rintro ⟨endpoint, message, rfl⟩
    exact h
  · rintro rfl
    -- every other outcome tells of more than one request
    cases error with
    | none => cases h
    | some e =>
      cases e with
      | unreachable endpoint message => exact ⟨endpoint, message, rfl⟩
      | _ => simp [Tells] at h

/-! ## The end of a run -/

/-- A run over the network sends its four requests in order, and at least the first of them.  How many
they were, its error tells: no other outcome than an unreachable control plane goes with one request
alone, an answer that is missing or malformed names the operation that got it, and a fault of transport
goes with a reply that is not completely received. -/
theorem connect_requests (replies : List Reply) (hConnectable : Connectable settings) :
    ∃ progress probeUrl apiUrl, connect settings (.ofReplies replies) = .ok progress ∧
      Url.parse settings.client.probeUrl = .ok probeUrl ∧
      Url.parse settings.client.apiUrl = .ok apiUrl ∧
      progress.plane.requests ≠ [] ∧
      InOrder settings probeUrl apiUrl progress.report progress.plane.requests ∧
      ((∃ endpoint message, progress.report.error = some (.unreachable endpoint message)) ↔
        progress.plane.requests.length = 1) ∧
      Tells replies progress.plane.requests.length progress.report.error := by
  obtain ⟨client, hClient⟩ := hConnectable.client
  obtain rfl : client = ⟨settings.client⟩ := by rw [← settings_of_ofSettings hClient]
  obtain ⟨probeUrl, hProbeUrl, hProbeSendable⟩ := hConnectable.probeUrl
  obtain ⟨apiUrl, hApiUrl, hApiSendable⟩ := hConnectable.apiUrl
  let client : Client := ⟨settings.client⟩
  let addresses : Addresses client.settings :=
    ⟨probeUrl, apiUrl, hProbeUrl, hApiUrl, hProbeSendable, hApiSendable⟩
  refine ⟨_, probeUrl, apiUrl, connect_eq hConnectable.valid hClient, hProbeUrl, hApiUrl, ?_⟩
  dsimp only
  -- the requests are those of the calls, so that the calls settle both order and number
  have hServed := served_bootstrap addresses settings replies
  have hTells := tells_bootstrap addresses hConnectable.valid replies
  obtain ⟨hSome, hInOrder⟩ :=
    inOrder_bootstrap client.plane (.ofReplies replies) hConnectable.valid addresses
  rw [← List.length_map addresses.requestOf] at hTells
  rw [hServed.requests]
  exact ⟨by simpa using hSome, hInOrder, hTells.unreachable_iff, hTells⟩

/-- Where only two replies are left, the third request is the last, and the outcome tells so. -/
theorem connect_requests_two_replies :
    Connectable .default ∧
      ∃ progress, connect .default (.ofReplies (plainReplies.take 2)) = .ok progress ∧
        progress.plane.requests.length = 3 ∧
        Tells (plainReplies.take 2) 3 progress.report.error := by
  obtain ⟨progress, _, _, hRun, -, -, -, -, -, hTells⟩ :=
    connect_requests (plainReplies.take 2) connectable_default
  have hComputed : (connect .default (.ofReplies (plainReplies.take 2))).toOption.map
      (fun p => p.plane.requests.length) = some 3 := by
    decide +kernel
  have hSent : progress.plane.requests.length = 3 := by
    rw [hRun] at hComputed
    exact Option.some.inj hComputed
  exact ⟨connectable_default, progress, hRun, hSent, hSent ▸ hTells⟩

end ClusterBootstrap
