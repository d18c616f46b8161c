import ClusterBootstrap.Proofs.Run.Course

/-!
# The calls of a run

A run makes its calls strictly in order and stops at the first gate that it does not pass.  Nothing is
called twice, and the assignment is sent exactly when everything before it has succeeded.
-/

namespace ClusterBootstrap

variable {σ : Type}

/-- The control plane after a call. -/
def ControlPlane.after (plane : ControlPlane σ) (s : σ) : Call → σ
  | .probe => (plane.probe s).next
  | .servers => (plane.servers s).next
  | .clusterState => (plane.clusterState s).next
  | .assign request => (plane.assign request s).next

/-- Something stops a run after its three queries: the last of them, the choice of a node, or a role
that the cluster does not know. -/
def StopsBeforeAssignment (plane : ControlPlane σ) (settings : BootstrapSettings) (start : σ)
    (nodes : List Node) : Prop :=
  (∃ e, (plane.observed start).answer = .error e) ∨
    ∃ state, (plane.observed start).answer = .ok state ∧
      ((∃ e, locate nodes state settings.fallback = .error e) ∨
        ∃ role ∈ settings.roles, state.knowsRole role = false)

variable {plane : ControlPlane σ} {settings : BootstrapSettings} {start : σ}

/-- What ends a run adds no call. -/
theorem Course.calls_eq {result : Except BootstrapError Unit} {p : Progress σ}
    (hCourse : Course plane settings start result p) :
    (bootstrap plane settings start).calls = p.calls := by
  rw [hCourse.bootstrap_eq]
  cases result <;> rfl

/-- What ends a run leaves the control plane alone. -/
theorem Course.plane_eq {result : Except BootstrapError Unit} {p : Progress σ}
    (hCourse : Course plane settings start result p) :
    (bootstrap plane settings start).plane = p.plane := by
  rw [hCourse.bootstrap_eq]
  cases result <;> rfl

/-- A request that is due is sent.  What it is answered settles the outcome of the run and the result that
is noted, and nothing else. -/
theorem Requested.course {nodes : List Node} {state : ClusterState} {located : Located}
    {request : AssignmentRequest}
    (hRequested : Requested plane settings start nodes state located request) :
    ∃ outcome noted, Course plane settings start outcome
      (.assigning nodes state located noted (plane.assigned start request).next
        (readCalls ++ [.assign request]) (plane.readLog start)
        (assigningRecord request.node request.roles :: (plane.assigned start request).log)) := by
  cases hAnswer : (plane.assigned start request).answer with
  | error e => exact ⟨_, _, .unanswered hRequested hAnswer⟩
  | ok result =>
    cases hAccepted : result.accepted with
    | false => exact ⟨_, _, .rejected hRequested hAnswer hAccepted⟩
    | true => exact ⟨_, _, .completed ⟨hRequested, hAnswer, hAccepted⟩⟩

theorem Requested.calls_eq {nodes : List Node} {state : ClusterState} {located : Located}
    {request : AssignmentRequest}
    (hRequested : Requested plane settings start nodes state located request) :
    (bootstrap plane settings start).calls = readCalls ++ [.assign request] := by
  obtain ⟨outcome, noted, hCourse⟩ := hRequested.course
  exact hCourse.calls_eq

/-- Every run makes one of five sequences of calls, each under its own condition. -/
theorem calls_cases (plane : ControlPlane σ) (settings : BootstrapSettings) (start : σ) :
    let calls := (bootstrap plane settings start).calls
    ((∃ fault, settings.validate = .error fault) ∧ calls = []) ∨
      ((settings.validate = .ok () ∧ ∃ e, (plane.probed start).answer = .error e) ∧
        calls = [.probe]) ∨
      ((Probed plane settings start ∧ ∃ e, (plane.listed start).answer = .error e) ∧
        calls = [.probe, .servers]) ∨
      ((∃ nodes, Listed plane settings start nodes ∧
          StopsBeforeAssignment plane settings start nodes) ∧ calls = readCalls) ∨
      ∃ nodes state located request,
        Requested plane settings start nodes state located request ∧
          calls = readCalls ++ [.assign request] := by
  obtain ⟨result, p, hCourse⟩ := exists_course plane settings start
  intro calls
  have hCalls : calls = p.calls := hCourse.calls_eq
  rw [hCalls]
  -- three courses end behind the queries, and three with the assignment
  cases hCourse with
  | refused hFault => exact .inl ⟨⟨_, hFault⟩, rfl⟩
  | unreachable hValid hAnswer => exact .inr (.inl ⟨⟨hValid, _, hAnswer⟩, rfl⟩)
  | unlisted hProbed hAnswer => exact .inr (.inr (.inl ⟨⟨hProbed, _, hAnswer⟩, rfl⟩))
  | unobserved hListed hAnswer =>
    exact .inr (.inr (.inr (.inl ⟨⟨_, hListed, .inl ⟨_, hAnswer⟩⟩, rfl⟩)))
  | @unlocated e nodes state hObserved hLocation =>
    have hStops : StopsBeforeAssignment plane settings start nodes :=
      .inr ⟨_, hObserved.clusterState, .inl ⟨_, hLocation⟩⟩
    exact .inr (.inr (.inr (.inl ⟨⟨_, hObserved.toListed, hStops⟩, rfl⟩)))
  | @unknownRole e nodes state located hChosen hRoles =>
    have hUnknown := checkKnown_eq_error_iff.mp ⟨e, hRoles⟩
    have hStops : StopsBeforeAssignment plane settings start nodes :=
      .inr ⟨_, hChosen.clusterState, .inr hUnknown⟩
    exact .inr (.inr (.inr (.inl ⟨⟨_, hChosen.toListed, hStops⟩, rfl⟩)))
  | unanswered hRequested hAnswer =>
    exact .inr (.inr (.inr (.inr ⟨_, _, _, _, hRequested, rfl⟩)))
  | rejected hRequested hAnswer hRejected =>
    exact .inr (.inr (.inr (.inr ⟨_, _, _, _, hRequested, rfl⟩)))
  | completed hCompletes =>
    exact .inr (.inr (.inr (.inr ⟨_, _, _, _, hCompletes.toRequested, rfl⟩)))

/-- An assignment is a call of a run exactly if it is due. -/
theorem assign_mem_calls_iff {request : AssignmentRequest} :
    .assign request ∈ (bootstrap plane settings start).calls ↔
      ∃ nodes state located, Requested plane settings start nodes state located request := by
  constructor
  · intro hMem
    rcases calls_cases plane settings start with
      ⟨-, hCalls⟩ | ⟨-, hCalls⟩ | ⟨-, hCalls⟩ | ⟨-, hCalls⟩ |
      ⟨nodes, state, located, other, hRequested, hCalls⟩
    all_goals rw [hCalls] at hMem
    -- the first four sequences only read
    · simp at hMem
    · simp at hMem
    · simp at hMem
    · simp [readCalls] at hMem
    · obtain rfl : request = other := by simpa [readCalls] using hMem
      exact ⟨nodes, state, located, hRequested⟩
  · rintro ⟨nodes, state, located, hRequested⟩
    rw [hRequested.calls_eq]
    exact List.mem_append_right _ (List.mem_singleton_self _)

/-- A run that is stopped after its three queries has made no other call. -/
theorem StopsBeforeAssignment.calls_eq {nodes : List Node}
    (hListed : Listed plane settings start nodes)
    (hStops : StopsBeforeAssignment plane settings start nodes) :
    (bootstrap plane settings start).calls = readCalls := by
  rcases hStops with ⟨e, hAnswer⟩ | ⟨state, hState, hRest⟩
  · exact (Course.unobserved hListed hAnswer).calls_eq
  · have hObserved : Observed plane settings start nodes state := ⟨hListed, hState⟩
    cases hLocation : locate nodes state settings.fallback with
    | error e => exact (Course.unlocated hObserved hLocation).calls_eq
    | ok located =>
      -- a node is located, so it is a role that stops the run
      rcases hRest with ⟨e, hError⟩ | hUnknown
      · rw [hLocation] at hError
        contradiction
      · obtain ⟨e, hRoles⟩ := checkKnown_eq_error_iff.mpr hUnknown
        exact (Course.unknownRole ⟨hObserved, hLocation⟩ hRoles).calls_eq

/-- The calls that a run has noted are those that brought the control plane where it is. -/
theorem plane_bootstrap (plane : ControlPlane σ) (settings : BootstrapSettings) (start : σ) :
    (bootstrap plane settings start).plane =
      (bootstrap plane settings start).calls.foldl plane.after start := by
  obtain ⟨result, p, hCourse⟩ := exists_course plane settings start
  rw [hCourse.calls_eq, hCourse.plane_eq]
  cases hCourse <;> rfl

/-- The calls of a run are told exactly by its settings and its answers: none if the settings are
refused, and then one more for each query that succeeds.  The assignment follows exactly when all three
have succeeded, a node is located and every role is known; it goes to that node with the roles as they
are set, and no request is ever refused for want of roles. -/
theorem bootstrap_calls_iff (plane : ControlPlane σ) (settings : BootstrapSettings) (start : σ) :
    let run := bootstrap plane settings start
    (run.calls = [] ↔ ∃ fault, settings.validate = .error fault) ∧
    (run.calls = [.probe] ↔
      settings.validate = .ok () ∧ ∃ e, (plane.probed start).answer = .error e) ∧
    (run.calls = [.probe, .servers] ↔
      Probed plane settings start ∧ ∃ e, (plane.listed start).answer = .error e) ∧
    (run.calls = [.probe, .servers, .clusterState] ↔
      ∃ nodes, Listed plane settings start nodes ∧
        StopsBeforeAssignment plane settings start nodes) ∧
    (∀ request, run.calls = [.probe, .servers, .clusterState, .assign request] ↔
      ∃ nodes state located, Requested plane settings start nodes state located request) ∧
    (run.calls = [] ∨ run.calls = [.probe] ∨ run.calls = [.probe, .servers] ∨
      run.calls = [.probe, .servers, .clusterState] ∨
      ∃ request, run.calls = [.probe, .servers, .clusterState, .assign request]) ∧
    run.plane = run.calls.foldl plane.after start ∧
    (settings.validate = .ok () →
      ∀ node, ∃ request, assignmentRequest node settings.roles = .ok request) := by
  intro run
  -- the five sequences differ, so each of them leaves one condition of `calls_cases`
  have hCases := calls_cases plane settings start
  refine ⟨⟨fun hCalls => ?_, ?_⟩, ⟨fun hCalls => ?_, ?_⟩, ⟨fun hCalls => ?_, ?_⟩,
    ⟨fun hCalls => ?_, ?_⟩, fun request => ⟨fun hCalls => ?_, ?_⟩, ?_, plane_bootstrap .., ?_⟩
  · simpa [hCalls, run, readCalls] using hCases
  · rintro ⟨fault, hFault⟩
    exact (Course.refused hFault).calls_eq
  · simpa [hCalls, run, readCalls] using hCases
  · rintro ⟨hValid, e, hAnswer⟩
    exact (Course.unreachable hValid hAnswer).calls_eq
  · simpa [hCalls, run, readCalls] using hCases
  · rintro ⟨hProbed, e, hAnswer⟩
    exact (Course.unlisted hProbed hAnswer).calls_eq
  · simpa [hCalls, run, readCalls] using hCases
  · rintro ⟨nodes, hListed, hStops⟩
    exact hStops.calls_eq hListed
  · simpa [hCalls, run, readCalls] using hCases
  · rintro ⟨nodes, state, located, hRequested⟩
    exact hRequested.calls_eq
  · rcases hCases with ⟨-, h⟩ | ⟨-, h⟩ | ⟨-, h⟩ | ⟨-, h⟩ | ⟨_, _, _, request, -, h⟩
    · exact .inl h
    · exact .inr (.inl h)
    · exact .inr (.inr (.inl h))
    · exact .inr (.inr (.inr (.inl h)))
    · exact .inr (.inr (.inr (.inr ⟨request, h⟩)))
  · intro hValid node
    exact ⟨_, assignmentRequest_of_ne_nil node (BootstrapSettings.roles_ne_nil hValid)⟩

end ClusterBootstrap
