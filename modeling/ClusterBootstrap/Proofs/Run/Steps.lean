import ClusterBootstrap.Run.Bootstrap

/-!
# The steps of a run

What each step of a run does to the progress, as an equation.  A step that fails ends the run where it
stands, and every other step hands its progress on, so that a whole run is computed by these equations
once its answers are known.
-/

namespace ClusterBootstrap

namespace Run

variable {σ α β : Type}

/-- A step hands its progress on, unless it fails. -/
theorem run_bind (step : Run σ α) (rest : α → Run σ β) (p : Progress σ) :
    (step >>= rest).run p =
      match step.run p with
      | (.ok a, q) => (rest a).run q
      | (.error e, q) => (.error e, q) := by
  simp only [ExceptT.run, bind, ExceptT.bind, ExceptT.mk, StateT.bind]
  rcases step p with ⟨_ | _, _⟩ <;> rfl

/-- What is computed without a progress leaves it as it is. -/
theorem run_lift (result : Except BootstrapError α) (p : Progress σ) :
    (liftM result : Run σ α).run p = (result, p) := by
  cases result <;> rfl

theorem run_pure (a : α) (p : Progress σ) : (pure a : Run σ α).run p = (.ok a, p) := rfl

theorem run_modify (change : Progress σ → Progress σ) (p : Progress σ) :
    (modify change : Run σ Unit).run p = (.ok (), change p) := rfl

theorem run_write (records : List LogRecord) (p : Progress σ) :
    (write records : Run σ Unit).run p = (.ok (), { p with log := p.log ++ records }) := rfl

theorem run_update (change : Report → Report) (p : Progress σ) :
    (update change : Run σ Unit).run p = (.ok (), { p with report := change p.report }) := rfl

/-- A call is noted with its records, whatever it answers. -/
theorem run_perform (call : Call) (act : σ → Outcome σ α) (p : Progress σ) :
    (perform call act).run p =
      ((act p.plane).answer,
        { p with
          plane := (act p.plane).next
          calls := p.calls ++ [call]
          log := p.log ++ (act p.plane).log }) := by
  unfold perform
  simp only [run_bind, run_lift]
  rfl

end Run

/-! ## Assigning -/

theorem checkKnown_eq_ok_iff {roles : List String} {state : ClusterState} :
    checkKnown roles state = .ok () ↔ ∀ role ∈ roles, state.knowsRole role = true := by
  unfold checkKnown
  cases h : roles.find? fun role => !state.knowsRole role with
  | none => simpa using h
  | some role =>
    have hMem := List.mem_of_find?_eq_some h
    have hUnknown := List.find?_some h
    simp only [reduceCtorEq, false_iff]
    intro hAll
    simp [hAll role hMem] at hUnknown

theorem checkKnown_eq_error_iff {roles : List String} {state : ClusterState} :
    (∃ e, checkKnown roles state = .error e) ↔ ∃ role ∈ roles, state.knowsRole role = false := by
  cases hRoles : checkKnown roles state with
  | error e =>
    have hNot : ¬ ∀ role ∈ roles, state.knowsRole role = true := by
      rw [← checkKnown_eq_ok_iff, hRoles]
      simp
    simpa using hNot
  | ok =>
    have hAll := checkKnown_eq_ok_iff.mp hRoles
    simpa using hAll

/-- Valid settings ask for at least one role. -/
theorem BootstrapSettings.roles_ne_nil {settings : BootstrapSettings}
    (hValid : settings.validate = .ok ()) : settings.roles ≠ [] := by
  intro hNil
  unfold validate at hValid
  cases hClient : settings.client.validate with
  | error fault => simp [hClient, bind, Except.bind] at hValid
  | ok => simp [hClient, bind, Except.bind, checkRoles, hNil] at hValid

/-- Only an empty list of roles makes no request. -/
theorem assignmentRequest_of_ne_nil (node : Node) {roles : List String} (hRoles : roles ≠ []) :
    assignmentRequest node roles = .ok ⟨node, roles, hRoles⟩ := by
  simp [assignmentRequest, AssignmentRequest.ofRoles?, hRoles]

theorem acceptedOnly_of_accepted (request : AssignmentRequest) {result : AssignmentResult}
    (hAccepted : result.accepted = true) : acceptedOnly request result = .ok result := by
  simp [acceptedOnly, hAccepted]

theorem acceptedOnly_of_not_accepted (request : AssignmentRequest) {result : AssignmentResult}
    (hRejected : result.accepted = false) :
    acceptedOnly request result =
      .error (.rejected request.roles request.node.uri result.envelope) := by
  simp [acceptedOnly, hRejected]

open Run in
/-- An assignment is sent only once all roles are known, and only its answer decides then. -/
theorem run_assignRoles {σ : Type} (plane : ControlPlane σ) (node : Node) (roles : List String)
    (state : ClusterState) (p : Progress σ) :
    (assignRoles plane node roles state).run p =
      match checkKnown roles state, assignmentRequest node roles with
      | .error e, _ => (.error e, p)
      | .ok (), .error e => (.error e, p)
      | .ok (), .ok request =>
        ((plane.assign request p.plane).answer.bind (acceptedOnly request),
          { p with
            plane := (plane.assign request p.plane).next
            calls := p.calls ++ [.assign request]
            log := p.log ++ assigningRecord node roles :: (plane.assign request p.plane).log }) := by
  simp only [assignRoles, run_bind, run_lift, run_write, run_perform]
  cases checkKnown roles state with
  | error e => rfl
  | ok =>
    cases assignmentRequest node roles with
    | error e => rfl
    | ok request =>
      cases hAnswer : (plane.assign request p.plane).answer with
      | error e => simp [hAnswer, Except.bind]
      | ok result => simp [hAnswer, Except.bind]

end ClusterBootstrap
