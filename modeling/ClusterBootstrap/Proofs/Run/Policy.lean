import ClusterBootstrap.Proofs.Run.Calls
import ClusterBootstrap.Proofs.Run.Location
import ClusterBootstrap.Proofs.Run.Path

/-!
# Strict and lenient runs

The fallback policy is asked at one place only: where servers are listed and none of them has the
endpoint's own uri.  So a strict run and a lenient run of the same settings are the same run in all that
they do, unless they come to that place.  There the lenient one takes the first server, and the strict one
fails with nothing sent.
-/

namespace ClusterBootstrap

variable {σ : Type}

/-- The same settings under a given policy. -/
def BootstrapSettings.under (policy : FallbackPolicy) (settings : BootstrapSettings) :
    BootstrapSettings :=
  { settings with fallback := policy }

/-- The place where the policy is asked: all three queries succeed and servers are listed, but none of
them has the endpoint's own uri. -/
structure Unmatched (plane : ControlPlane σ) (settings : BootstrapSettings) (start : σ)
    (nodes : List Node) (state : ClusterState) : Prop
    extends Observed plane settings start nodes state where
  nonempty : nodes ≠ []
  unmatched : ∀ node ∈ nodes, node.uri ≠ state.selfUri

/-- Two runs part where the policy is asked: the lenient one goes on with the first server, and the strict
one fails before anything but queries is sent. -/
structure Parted (nodes : List Node) (state : ClusterState) (lenient strict : Progress σ) :
    Prop where
  lenient_servers : lenient.report.servers = nodes
  lenient_bootstrap : ∃ first, nodes[0]? = some first ∧ lenient.report.bootstrap = some first
  lenient_selection : lenient.report.selection = some .fallback
  strict_calls : strict.calls = [.probe, .servers, .clusterState]
  strict_bootstrap : strict.report.bootstrap = none
  strict_selection : strict.report.selection = none
  strict_phase : strict.report.phase = .failed
  strict_error :
    strict.report.error = some (.selfNotListed state.selfUri (nodes.map Node.uri))

variable {plane : ControlPlane σ} {settings : BootstrapSettings} {start : σ} {nodes : List Node}
  {state : ClusterState}

/-! ## Where the policy is not asked -/

/-- An empty list and a match both settle the choice, whatever the policy. -/
theorem locate_eq_of_nil_or_match (hSettled : nodes = [] ∨ ∃ node ∈ nodes, node.uri = state.selfUri)
    (policy other : FallbackPolicy) : locate nodes state policy = locate nodes state other := by
  rcases exists_firstMatch_or_forall_ne nodes state with ⟨index, node, hMatch⟩ | hNone
  · have hLocated (policy : FallbackPolicy) :
        locate nodes state policy = .ok { index, node, selection := .selfMatch } :=
      hMatch.locate_eq
    rw [hLocated policy, hLocated other]
  · rcases hSettled with rfl | ⟨node, hMem, hUri⟩
    · rw [locate_nil, locate_nil]
    · exact absurd hUri (hNone node hMem)

theorem Probed.under (h : Probed plane settings start) (policy : FallbackPolicy) :
    Probed plane (settings.under policy) start :=
  ⟨h.valid, h.probe⟩

theorem Listed.under (h : Listed plane settings start nodes) (policy : FallbackPolicy) :
    Listed plane (settings.under policy) start nodes :=
  ⟨h.toProbed.under policy, h.servers⟩

theorem Observed.under (h : Observed plane settings start nodes state) (policy : FallbackPolicy) :
    Observed plane (settings.under policy) start nodes state :=
  ⟨h.toListed.under policy, h.clusterState⟩

section

variable {located : Located} {policy : FallbackPolicy}

/-- A choice is that of another policy where the two choose alike. -/
theorem Chosen.under (h : Chosen plane settings start nodes state located)
    (hSame : locate nodes state policy = locate nodes state settings.fallback) :
    Chosen plane (settings.under policy) start nodes state located :=
  ⟨h.toObserved.under policy, hSame.trans h.location⟩

theorem Requested.under {request : AssignmentRequest}
    (h : Requested plane settings start nodes state located request)
    (hSame : locate nodes state policy = locate nodes state settings.fallback) :
    Requested plane (settings.under policy) start nodes state located request :=
  ⟨h.toChosen.under hSame, h.known, h.node, h.roles⟩

theorem Completes.under {request : AssignmentRequest} {result : AssignmentResult}
    (h : Completes plane settings start nodes state located request result)
    (hSame : locate nodes state policy = locate nodes state settings.fallback) :
    Completes plane (settings.under policy) start nodes state located request result :=
  ⟨h.toRequested.under hSame, h.answer, h.accepted⟩

end

/-- The course of a run is also its course under any policy that would choose alike. -/
theorem Course.under {result : Except BootstrapError Unit} {p : Progress σ}
    (hCourse : Course plane settings start result p) {policy : FallbackPolicy}
    (hSame : ∀ nodes state, Observed plane settings start nodes state →
      locate nodes state policy = locate nodes state settings.fallback) :
    Course plane (settings.under policy) start result p := by
  -- only the courses that come to the choice of a node ask whether it is made alike
  cases hCourse with
  | refused hFault => exact .refused hFault
  | unreachable hValid hAnswer => exact .unreachable hValid hAnswer
  | unlisted hProbed hAnswer => exact .unlisted (hProbed.under policy) hAnswer
  | unobserved hListed hAnswer => exact .unobserved (hListed.under policy) hAnswer
  | unlocated hObserved hLocation =>
    exact .unlocated (hObserved.under policy) ((hSame _ _ hObserved).trans hLocation)
  | unknownRole hChosen hRoles =>
    exact .unknownRole (hChosen.under (hSame _ _ hChosen.toObserved)) hRoles
  | unanswered hRequested hAnswer =>
    exact .unanswered (hRequested.under (hSame _ _ hRequested.toObserved)) hAnswer
  | rejected hRequested hAnswer hRejected =>
    exact .rejected (hRequested.under (hSame _ _ hRequested.toObserved)) hAnswer hRejected
  | completed hCompletes =>
    exact .completed (hCompletes.under (hSame _ _ hCompletes.toObserved))

/-- Two policies that would choose alike make the same run. -/
theorem bootstrap_under_eq {policy other : FallbackPolicy}
    (hSame : ∀ nodes state, Observed plane settings start nodes state →
      locate nodes state policy = locate nodes state other) :
    bootstrap plane (settings.under policy) start =
      bootstrap plane (settings.under other) start := by
  obtain ⟨result, p, hCourse⟩ := exists_course plane (settings.under other) start
  have hCourse' : Course plane ((settings.under other).under policy) start result p := by
    apply hCourse.under
    intro nodes state hObserved
    exact hSame nodes state (hObserved.under settings.fallback)
  have hEither : bootstrap plane (settings.under policy) start = conclude plane.endpoint (result, p) :=
    hCourse'.bootstrap_eq
  rw [hEither, hCourse.bootstrap_eq]

/-! ## Where the policy is asked -/

/-- Once a node is chosen, the report keeps it and the way it was chosen, whatever follows. -/
theorem Chosen.report_eq {located : Located}
    (hChosen : Chosen plane settings start nodes state located) :
    let report := (bootstrap plane settings start).report
    report.servers = nodes ∧ report.bootstrap = some located.node ∧
      report.selection = some located.selection := by
  cases hRoles : checkKnown settings.roles state with
  | error e =>
    rw [(Course.unknownRole hChosen hRoles).bootstrap_eq]
    exact ⟨rfl, rfl, rfl⟩
  | ok =>
    have hRequested : Requested plane settings start nodes state located
        ⟨located.node, settings.roles, BootstrapSettings.roles_ne_nil hChosen.valid⟩ :=
      ⟨hChosen, checkKnown_eq_ok_iff.mp hRoles, rfl, rfl⟩
    obtain ⟨outcome, noted, hCourse⟩ := hRequested.course
    rw [hCourse.bootstrap_eq]
    cases outcome <;> exact ⟨rfl, rfl, rfl⟩

/-- Where no server matches, the two runs part. -/
theorem Unmatched.parted (h : Unmatched plane settings start nodes state) :
    Parted nodes state (bootstrap plane (settings.under .firstNode) start)
      (bootstrap plane (settings.under .fail) start) := by
  obtain ⟨first, rest, rfl⟩ := List.exists_cons_of_ne_nil h.nonempty
  obtain ⟨hLenient, hStrict⟩ := locate_cons_of_forall_ne h.unmatched
  have hChosen : Chosen plane (settings.under .firstNode) start (first :: rest) state
      { index := 0, node := first, selection := .fallback } :=
    ⟨h.toObserved.under .firstNode, hLenient⟩
  obtain ⟨hServers, hBootstrap, hSelection⟩ := hChosen.report_eq
  have hCourse := Course.unlocated (h.toObserved.under .fail) hStrict
  exact
    { lenient_servers := hServers
      lenient_bootstrap := ⟨first, rfl, hBootstrap⟩
      lenient_selection := hSelection
      strict_calls := hCourse.calls_eq
      strict_bootstrap := by rw [hCourse.bootstrap_eq]; rfl
      strict_selection := by rw [hCourse.bootstrap_eq]; rfl
      strict_phase := by rw [hCourse.bootstrap_eq]; rfl
      strict_error := by rw [hCourse.bootstrap_eq]; rfl }

theorem Parted.ne {lenient strict : Progress σ} (h : Parted nodes state lenient strict) :
    strict ≠ lenient := by
  intro hEq
  have hSelection := h.lenient_selection
  rw [← hEq, h.strict_selection] at hSelection
  contradiction

/-! ## Every pair of runs -/

/-- A strict run and a lenient run of the same settings on the same control plane are the same, in their
reports, calls and logs, exactly when they do not come to the place where the policy is asked.  If they do,
they part there.  So a strict run that reaches its goal is the lenient one. -/
theorem strict_eq_lenient_iff (plane : ControlPlane σ) (settings : BootstrapSettings) (start : σ) :
    let lenient := bootstrap plane (settings.under .firstNode) start
    let strict := bootstrap plane (settings.under .fail) start
    (strict = lenient ↔ ¬ ∃ nodes state, Unmatched plane settings start nodes state) ∧
      (∀ nodes state, Unmatched plane settings start nodes state →
        Parted nodes state lenient strict) ∧
      (strict.report.phase = .done → strict = lenient) := by
  intro lenient strict
  have hParted : ∀ nodes state, Unmatched plane settings start nodes state →
      Parted nodes state lenient strict := fun nodes state h => h.parted
  have hSame (hNone : ¬ ∃ nodes state, Unmatched plane settings start nodes state) :
      strict = lenient := by
    apply bootstrap_under_eq
    intro nodes state hObserved
    apply locate_eq_of_nil_or_match
    rcases exists_firstMatch_or_forall_ne nodes state with ⟨index, node, hMatch⟩ | hForall
    · exact .inr ⟨node, hMatch.mem, hMatch.uri⟩
    · -- without a match the list is empty, or this is the place where the runs part
      by_cases hNil : nodes = []
      · exact .inl hNil
      · exact absurd ⟨nodes, state, hObserved, hNil, hForall⟩ hNone
  refine ⟨⟨fun hEq => ?_, hSame⟩, hParted, fun hDone => ?_⟩
  · rintro ⟨nodes, state, hUnmatched⟩
    exact (hParted nodes state hUnmatched).ne hEq
  · apply hSame
    rintro ⟨nodes, state, hUnmatched⟩
    -- the strict run would have failed there
    have hFailed := (hParted nodes state hUnmatched).strict_phase
    rw [hFailed] at hDone
    contradiction

end ClusterBootstrap
