import ClusterBootstrap.Proofs.Run.Gate

/-!
# The course of a run

The course of a run is how its steps end and what they have done by then, told from the answers.
`drive_eq_iff` says that the steps of a run do exactly this, so that everything about a run follows by
cases on its course.
-/

namespace ClusterBootstrap

variable {σ : Type}

/-! ## The progress at the end of each course -/

/-- The calls that only read. -/
def readCalls : List Call := [.probe, .servers, .clusterState]

/-- The records left by the calls that only read. -/
def ControlPlane.readLog (plane : ControlPlane σ) (start : σ) : List LogRecord :=
  (plane.probed start).log ++ (plane.listed start).log ++ (plane.observed start).log

/-- A run in discovery: the servers it has learned of, and what its calls have left. -/
def Progress.discovering (servers : List Node) (plane : σ) (calls : List Call)
    (records : List LogRecord) : Progress σ where
  report := { phase := .discovering, servers }
  plane := plane
  calls := calls
  log := Run.phaseRecord .idle .discovering :: records
  asked := [(.idle, .discovering)]

/-- A run in assignment: what it has learned, and what its calls have left before and after the choice
of a node. -/
def Progress.assigning (nodes : List Node) (state : ClusterState) (located : Located)
    (result : Option AssignmentResult) (plane : σ) (calls : List Call)
    (before after : List LogRecord) : Progress σ where
  report :=
    { phase := .assigning
      servers := nodes
      clusterState := some state
      bootstrap := some located.node
      selection := some located.selection
      result }
  plane := plane
  calls := calls
  log :=
    Run.phaseRecord .idle .discovering :: before ++ located.log nodes state ++
      [Run.phaseRecord .discovering .located, Run.phaseRecord .located .assigning] ++ after
  asked := [(.idle, .discovering), (.discovering, .located), (.located, .assigning)]

/-- The ways in which the steps of a run can go: how they end, and what they have done by then. -/
inductive Course (plane : ControlPlane σ) (settings : BootstrapSettings) (start : σ) :
    Except BootstrapError Unit → Progress σ → Prop where
  | refused {fault : SettingsFault} (hFault : settings.validate = .error fault) :
      Course plane settings start (.error fault.toError) { plane := start }
  | unreachable {e : BootstrapError} (hValid : settings.validate = .ok ())
      (hAnswer : (plane.probed start).answer = .error e) :
      Course plane settings start (.error e)
        (.discovering [] (plane.probed start).next [.probe] (plane.probed start).log)
  | unlisted {e : BootstrapError} (hProbed : Probed plane settings start)
      (hAnswer : (plane.listed start).answer = .error e) :
      Course plane settings start (.error e)
        (.discovering [] (plane.listed start).next [.probe, .servers]
          ((plane.probed start).log ++ (plane.listed start).log))
  | unobserved {e : BootstrapError} {nodes : List Node}
      (hListed : Listed plane settings start nodes)
      (hAnswer : (plane.observed start).answer = .error e) :
      Course plane settings start (.error e)
        (.discovering nodes (plane.observed start).next readCalls (plane.readLog start))
  | unlocated {e : BootstrapError} {nodes : List Node} {state : ClusterState}
      (hObserved : Observed plane settings start nodes state)
      (hLocation : locate nodes state settings.fallback = .error e) :
      Course plane settings start (.error e)
        (.discovering nodes (plane.observed start).next readCalls (plane.readLog start))
  | unknownRole {e : BootstrapError} {nodes : List Node} {state : ClusterState}
      {located : Located} (hChosen : Chosen plane settings start nodes state located)
      (hRoles : checkKnown settings.roles state = .error e) :
      Course plane settings start (.error e)
        (.assigning nodes state located none (plane.observed start).next readCalls
          (plane.readLog start) [])
  | unanswered {e : BootstrapError} {nodes : List Node} {state : ClusterState}
      {located : Located} {request : AssignmentRequest}
      (hRequested : Requested plane settings start nodes state located request)
      (hAnswer : (plane.assigned start request).answer = .error e) :
      Course plane settings start (.error e)
        (.assigning nodes state located none (plane.assigned start request).next
          (readCalls ++ [.assign request]) (plane.readLog start)
          (assigningRecord request.node request.roles :: (plane.assigned start request).log))
  | rejected {nodes : List Node} {state : ClusterState} {located : Located}
      {request : AssignmentRequest} {result : AssignmentResult}
      (hRequested : Requested plane settings start nodes state located request)
      (hAnswer : (plane.assigned start request).answer = .ok result)
      (hRejected : result.accepted = false) :
      Course plane settings start
        (.error (.rejected request.roles request.node.uri result.envelope))
        (.assigning nodes state located none (plane.assigned start request).next
          (readCalls ++ [.assign request]) (plane.readLog start)
          (assigningRecord request.node request.roles :: (plane.assigned start request).log))
  | completed {nodes : List Node} {state : ClusterState} {located : Located}
      {request : AssignmentRequest} {result : AssignmentResult}
      (hCompletes : Completes plane settings start nodes state located request result) :
      Course plane settings start (.ok ())
        (.assigning nodes state located (some result) (plane.assigned start request).next
          (readCalls ++ [.assign request]) (plane.readLog start)
          (assigningRecord request.node request.roles :: (plane.assigned start request).log))

variable {plane : ControlPlane σ} {settings : BootstrapSettings} {start : σ}

/-! ## The steps from snapshot to snapshot -/

open Run in
/-- A call made in discovery adds itself and its records. -/
theorem run_perform_discovering {α : Type} (call : Call) (act : σ → Outcome σ α)
    (servers : List Node) (s : σ) (calls : List Call) (records : List LogRecord) :
    (perform call act).run (.discovering servers s calls records) =
      ((act s).answer,
        .discovering servers (act s).next (calls ++ [call]) (records ++ (act s).log)) := by
  simp [run_perform, Progress.discovering]

open Run in
/-- Discovery stops at the first call that fails. -/
theorem run_discover (plane : ControlPlane σ) (start : σ) :
    (discover plane).run (.discovering [] start [] []) =
      match (plane.probed start).answer with
      | .error e =>
        (.error e, .discovering [] (plane.probed start).next [.probe] (plane.probed start).log)
      | .ok () =>
        match (plane.listed start).answer with
        | .error e =>
          (.error e,
            .discovering [] (plane.listed start).next [.probe, .servers]
              ((plane.probed start).log ++ (plane.listed start).log))
        | .ok nodes =>
          ((plane.observed start).answer.map fun state => (nodes, state),
            .discovering nodes (plane.observed start).next readCalls (plane.readLog start)) := by
  unfold ControlPlane.readLog ControlPlane.observed ControlPlane.listed ControlPlane.probed
  simp only [discover, run_bind, run_perform_discovering]
  cases (plane.probe start).answer with
  | error e => rfl
  | ok =>
    -- the servers are called with the plane as the probe left it
    simp only [run_perform_discovering]
    cases (plane.servers (plane.probe start).next).answer with
    | error e => rfl
    | ok nodes =>
      simp only [run_update, run_perform, Progress.discovering]
      cases (plane.clusterState (plane.servers (plane.probe start).next).next).answer with
      | error e => rfl
      | ok state => rfl

open Run in
/-- Only a located node is reported, and the state of the cluster with it. -/
theorem run_settle (nodes : List Node) (state : ClusterState) (policy : FallbackPolicy) (s : σ)
    (calls : List Call) (records : List LogRecord) :
    (settle nodes state policy).run (.discovering nodes s calls records) =
      match locate nodes state policy with
      | .error e => (.error e, .discovering nodes s calls records)
      | .ok located => (.ok located, .assigning nodes state located none s calls records []) := by
  simp only [settle, run_bind, run_lift, run_write, run_update, run_modify, run_pure]
  cases locate nodes state policy with
  | error e => rfl
  | ok located =>
    simp [Progress.discovering, Progress.assigning, enter, Phase.advance, Phase.canAdvanceTo]

open Run in
/-- The stages of a run, each from where the one before it ended. -/
theorem run_drive (plane : ControlPlane σ) (settings : BootstrapSettings) (start : σ) :
    (drive plane settings).run { plane := start } =
      match settings.validate with
      | .error fault => (.error fault.toError, { plane := start })
      | .ok () =>
        match (discover plane).run (.discovering [] start [] []) with
        | (.error e, q) => (.error e, q)
        | (.ok (nodes, state), q) =>
          match (settle nodes state settings.fallback).run q with
          | (.error e, q) => (.error e, q)
          | (.ok located, q) =>
            match (assignRoles plane located.node settings.roles state).run q with
            | (.error e, q) => (.error e, q)
            | (.ok result, q) =>
              (.ok (), { q with report := { q.report with result := some result } }) := by
  have hEntered : enter .discovering ({ plane := start } : Progress σ) =
      .discovering [] start [] [] := rfl
  have hChecked : (Except.ok () : Except SettingsFault Unit).mapError SettingsFault.toError =
      .ok () := rfl
  simp only [drive, run_bind, run_lift, run_modify, run_update]
  cases settings.validate with
  | error fault => rfl
  | ok =>
    simp only [hChecked, hEntered]
    rcases (discover plane).run (.discovering [] start [] []) with ⟨_ | ⟨nodes, state⟩, q⟩
    · rfl
    · dsimp only
      rcases (settle nodes state settings.fallback).run q with ⟨_ | located, q⟩
      · rfl
      · dsimp only
        rcases (assignRoles plane located.node settings.roles state).run q with ⟨_ | result, q⟩
        · rfl
        · rfl

theorem Observed.run_discover {nodes : List Node} {state : ClusterState}
    (hObserved : Observed plane settings start nodes state) :
    (discover plane).run (.discovering [] start [] []) =
      (.ok (nodes, state),
        .discovering nodes (plane.observed start).next readCalls (plane.readLog start)) := by
  rw [ClusterBootstrap.run_discover, hObserved.probe, hObserved.servers, hObserved.clusterState]
  rfl

theorem Requested.run_assignRoles {nodes : List Node} {state : ClusterState} {located : Located}
    {request : AssignmentRequest}
    (hRequested : Requested plane settings start nodes state located request) :
    (assignRoles plane located.node settings.roles state).run
        (.assigning nodes state located none (plane.observed start).next readCalls
          (plane.readLog start) []) =
      ((plane.assigned start request).answer.bind (acceptedOnly request),
        .assigning nodes state located none (plane.assigned start request).next
          (readCalls ++ [.assign request]) (plane.readLog start)
          (assigningRecord request.node request.roles :: (plane.assigned start request).log)) := by
  -- both checks before the call succeed, and the call gets the request that is due
  have hKnown := checkKnown_eq_ok_iff.mpr hRequested.known
  rw [ClusterBootstrap.run_assignRoles, hKnown, hRequested.assignmentRequest_eq,
    hRequested.node, hRequested.roles]
  simp [Progress.assigning, ControlPlane.assigned]

/-- The steps of a run do what its course says. -/
theorem Course.drive_eq {result : Except BootstrapError Unit} {p : Progress σ}
    (hCourse : Course plane settings start result p) :
    (drive plane settings).run { plane := start } = (result, p) := by
  rw [run_drive]
  -- each course names the stage at which the run stops, and all stages before it have succeeded
  cases hCourse with
  | refused hFault =>
    simp only [hFault]
  | unreachable hValid hAnswer =>
    simp only [hValid, run_discover, hAnswer]
  | unlisted hProbed hAnswer =>
    simp only [hProbed.valid, run_discover, hProbed.probe, hAnswer]
  | unobserved hListed hAnswer =>
    simp only [hListed.valid, run_discover, hListed.probe, hListed.servers, hAnswer, Except.map]
  | unlocated hObserved hLocation =>
    simp only [hObserved.valid, hObserved.run_discover, run_settle, hLocation]
  | unknownRole hChosen hRoles =>
    simp only [hChosen.valid, hChosen.run_discover, run_settle, hChosen.location,
      run_assignRoles, hRoles]
  | unanswered hRequested hAnswer =>
    simp only [hRequested.valid, hRequested.run_discover, run_settle, hRequested.location,
      hRequested.run_assignRoles, hAnswer, Except.bind]
  | rejected hRequested hAnswer hRejected =>
    simp only [hRequested.valid, hRequested.run_discover, run_settle, hRequested.location,
      hRequested.run_assignRoles, hAnswer, Except.bind, acceptedOnly_of_not_accepted _ hRejected]
  | completed hCompletes =>
    simp only [hCompletes.valid, hCompletes.run_discover, run_settle, hCompletes.location,
      hCompletes.run_assignRoles, hCompletes.answer, Except.bind,
      acceptedOnly_of_accepted _ hCompletes.accepted]
    rfl

/-! ## Every run has a course -/

/-- A run that fails at a gate stops there. -/
theorem FailsAt.course {gate : Gate} {e : BootstrapError}
    (hFails : FailsAt plane settings start gate e) :
    ∃ p, Course plane settings start (.error e) p ∧ p.report.phase = gate.phase := by
  cases hFails with
  | settings hFault => exact ⟨_, .refused hFault, rfl⟩
  | probe hValid hAnswer => exact ⟨_, .unreachable hValid hAnswer, rfl⟩
  | servers hProbed hAnswer => exact ⟨_, .unlisted hProbed hAnswer, rfl⟩
  | clusterState hListed hAnswer => exact ⟨_, .unobserved hListed hAnswer, rfl⟩
  | location hObserved hLocation => exact ⟨_, .unlocated hObserved hLocation, rfl⟩
  | roles hChosen hRoles => exact ⟨_, .unknownRole hChosen hRoles, rfl⟩
  | assignment hRequested hAnswer => exact ⟨_, .unanswered hRequested hAnswer, rfl⟩
  | verdict hRequested hAnswer hRejected =>
    exact ⟨_, .rejected hRequested hAnswer hRejected, rfl⟩

/-- Exactly one course is that of the run. -/
theorem drive_eq_iff {result : Except BootstrapError Unit} {p : Progress σ} :
    (drive plane settings).run { plane := start } = (result, p) ↔
      Course plane settings start result p := by
  -- the run has only one outcome, so it is that of whichever course there is
  refine ⟨fun hDrive => ?_, Course.drive_eq⟩
  rcases exists_failsAt_or_completes plane settings start with ⟨_, _, hFails⟩ | ⟨_, _, _, _, _, h⟩
  · obtain ⟨q, hCourse, -⟩ := hFails.course
    cases hDrive.symm.trans hCourse.drive_eq
    exact hCourse
  · cases hDrive.symm.trans (Course.completed h).drive_eq
    exact .completed h

theorem exists_course (plane : ControlPlane σ) (settings : BootstrapSettings) (start : σ) :
    ∃ result p, Course plane settings start result p :=
  ⟨_, _, drive_eq_iff.mp rfl⟩

/-- A whole run is its course and what concludes it. -/
theorem Course.bootstrap_eq {result : Except BootstrapError Unit} {p : Progress σ}
    (hCourse : Course plane settings start result p) :
    bootstrap plane settings start = conclude plane.endpoint (result, p) := by
  rw [bootstrap, hCourse.drive_eq]

end ClusterBootstrap
