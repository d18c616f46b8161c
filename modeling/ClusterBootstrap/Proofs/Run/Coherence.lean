import ClusterBootstrap.Proofs.Run.Course
import ClusterBootstrap.Proofs.Run.Location

/-!
# The report of a run is coherent

The report is filled in as the run goes on, and an error may end the run between any two changes.  Its
fields nevertheless agree with one another, with the settings, and with the answers.
-/

namespace ClusterBootstrap

variable {σ : Type}

/-- A report agrees with itself, with the settings, and with the answers of the plane. -/
structure Coherent (plane : ControlPlane σ) (settings : BootstrapSettings) (start : σ)
    (report : Report) : Prop where
  /-- The run has ended. -/
  ended : report.phase = .done ∨ report.phase = .failed
  done_iff_error : report.phase = .done ↔ report.error = none
  done_iff_result : report.phase = .done ↔ report.result.isSome
  failed_iff_error : report.phase = .failed ↔ report.error.isSome
  result_of_failed : report.phase = .failed → report.result = none
  /-- A reported result was accepted, and is what the assignment to the reported node was answered. -/
  answered : ∀ result, report.result = some result →
    result.accepted = true ∧
      ∃ request : AssignmentRequest, report.bootstrap = some request.node ∧
        request.roles = settings.roles ∧ (plane.assigned start request).answer = .ok result
  bootstrap_iff_selection : report.bootstrap.isSome ↔ report.selection.isSome
  /-- A reported node was chosen from the reported servers, as the report says. -/
  chosen : ∀ node selection, report.bootstrap = some node → report.selection = some selection →
    ∃ state, report.clusterState = some state ∧
      Justified settings.fallback report.servers state node selection
  servers_of_listed : ∀ nodes, Listed plane settings start nodes → report.servers = nodes
  servers_of_not_listed : (∀ nodes, ¬ Listed plane settings start nodes) → report.servers = []
  chosen_of_done : report.phase = .done → report.bootstrap.isSome ∧ report.selection.isSome

variable {plane : ControlPlane σ} {settings : BootstrapSettings} {start : σ} {nodes : List Node}

/-! ## The reports at the end of a run -/

/-- A run lists one list of servers at most. -/
theorem Listed.eq {others : List Node} (h : Listed plane settings start nodes)
    (hOthers : Listed plane settings start others) : nodes = others :=
  Except.ok.inj (h.servers.symm.trans hOthers.servers)

/-- The report of a run that fails before the servers are listed. -/
theorem coherent_of_not_listed (hNone : ∀ nodes, ¬ Listed plane settings start nodes)
    (e : BootstrapError) :
    Coherent plane settings start { phase := .failed, error := some e } := by
  constructor <;> simp
  intro nodes hListed
  exact absurd hListed (hNone nodes)

/-- The report of a run that fails with the servers listed and no node located. -/
theorem Listed.coherent (hListed : Listed plane settings start nodes) (e : BootstrapError) :
    Coherent plane settings start
      { phase := .failed, servers := nodes, error := some e } := by
  constructor <;> simp
  · exact fun _ => hListed.eq
  · exact fun hNone => absurd hListed (hNone nodes)

/-- The report of a run that fails with a node located. -/
theorem Chosen.coherent {state : ClusterState} {located : Located}
    (hChosen : Chosen plane settings start nodes state located) (e : BootstrapError) :
    Coherent plane settings start
      { phase := .failed
        servers := nodes
        clusterState := some state
        bootstrap := some located.node
        selection := some located.selection
        error := some e } where
  ended := .inr rfl
  done_iff_error := by simp
  done_iff_result := by simp
  failed_iff_error := by simp
  result_of_failed _ := rfl
  answered _ hResult := by cases hResult
  bootstrap_iff_selection := by simp
  chosen := by
    rintro _ _ ⟨⟩ ⟨⟩
    exact ⟨state, rfl, justified_of_locate hChosen.location⟩
  servers_of_listed _ := hChosen.toListed.eq
  servers_of_not_listed hNone := absurd hChosen.toListed (hNone nodes)
  chosen_of_done hDone := by cases hDone

/-- The report of a run that passes all its gates. -/
theorem Completes.coherent {state : ClusterState} {located : Located}
    {request : AssignmentRequest} {result : AssignmentResult}
    (hCompletes : Completes plane settings start nodes state located request result) :
    Coherent plane settings start
      { phase := .done
        servers := nodes
        clusterState := some state
        bootstrap := some located.node
        selection := some located.selection
        result := some result } where
  ended := .inl rfl
  done_iff_error := by simp
  done_iff_result := by simp
  failed_iff_error := by simp
  result_of_failed hFailed := by cases hFailed
  answered := by
    rintro _ ⟨⟩
    have hNode := congrArg some hCompletes.node.symm
    exact ⟨hCompletes.accepted, request, hNode, hCompletes.roles, hCompletes.answer⟩
  bootstrap_iff_selection := by simp
  chosen := by
    rintro _ _ ⟨⟩ ⟨⟩
    exact ⟨state, rfl, justified_of_locate hCompletes.location⟩
  servers_of_listed _ := hCompletes.toListed.eq
  servers_of_not_listed hNone := absurd hCompletes.toListed (hNone nodes)
  chosen_of_done _ := ⟨rfl, rfl⟩

/-! ## Every report -/

/-- Every course ends with a coherent report. -/
theorem Course.coherent {result : Except BootstrapError Unit} {p : Progress σ}
    (hCourse : Course plane settings start result p) :
    Coherent plane settings start (bootstrap plane settings start).report := by
  rw [hCourse.bootstrap_eq]
  -- only three courses have listed no servers when they end
  cases hCourse with
  | refused hFault =>
    refine coherent_of_not_listed (fun _ hListed => ?_) _
    cases hFault.symm.trans hListed.valid
  | unreachable hValid hAnswer =>
    refine coherent_of_not_listed (fun _ hListed => ?_) _
    cases hAnswer.symm.trans hListed.probe
  | unlisted hProbed hAnswer =>
    refine coherent_of_not_listed (fun _ hListed => ?_) _
    cases hAnswer.symm.trans hListed.servers
  | unobserved hListed hAnswer => exact hListed.coherent _
  | unlocated hObserved hLocation => exact hObserved.toListed.coherent _
  | unknownRole hChosen hRoles => exact hChosen.coherent _
  | unanswered hRequested hAnswer => exact hRequested.toChosen.coherent _
  | rejected hRequested hAnswer hRejected => exact hRequested.toChosen.coherent _
  | completed hCompletes => exact hCompletes.coherent

/-- Whatever the plane answers, the report of a run is coherent. -/
theorem coherent_bootstrap (plane : ControlPlane σ) (settings : BootstrapSettings) (start : σ) :
    Coherent plane settings start (bootstrap plane settings start).report := by
  obtain ⟨result, p, hCourse⟩ := exists_course plane settings start
  exact hCourse.coherent

end ClusterBootstrap
