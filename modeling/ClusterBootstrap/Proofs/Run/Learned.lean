import ClusterBootstrap.Proofs.Run.Order

/-!
# What a report keeps

A run learns two things before it changes anything: the servers, and the state of the cluster.  The
servers are reported as soon as they are listed, and stay in the report however the run ends.  The state
waits until a node is located, so that a run that locates none forgets it.
-/

namespace ClusterBootstrap

variable {σ : Type} {plane : ControlPlane σ} {settings : BootstrapSettings} {start : σ}
  {nodes : List Node} {state : ClusterState}

/-- A run learns the servers and the state of the cluster, but the policy lets it take no node. -/
structure Stranded (plane : ControlPlane σ) (settings : BootstrapSettings) (start : σ)
    (nodes : List Node) (state : ClusterState) : Prop
    extends Observed plane settings start nodes state where
  unmatched : ∀ node ∈ nodes, node.uri ≠ state.selfUri
  untaken : nodes = [] ∨ settings.fallback = .fail

/-- A run tells the state of one cluster at most. -/
theorem Observed.state_eq {others : List Node} {other : ClusterState}
    (h : Observed plane settings start nodes state)
    (hOther : Observed plane settings start others other) : state = other :=
  Except.ok.inj (h.clusterState.symm.trans hOther.clusterState)

/-- A run that learns both locates a node or is stranded, and never does both. -/
theorem Observed.not_stranded_iff (h : Observed plane settings start nodes state) :
    ¬ Stranded plane settings start nodes state ↔
      ∃ located, Chosen plane settings start nodes state located := by
  constructor
  · intro hNot
    have hLocated : ∃ located, locate nodes state settings.fallback = .ok located := by
      rw [exists_locate_iff]
      by_cases hMatch : ∃ node ∈ nodes, node.uri = state.selfUri
      · obtain ⟨node, hMem, hUri⟩ := hMatch
        exact ⟨List.ne_nil_of_mem hMem, .inl ⟨node, hMem, hUri⟩⟩
      · -- without a match only the policy is left to take a node
        have hUnmatched : ∀ node ∈ nodes, node.uri ≠ state.selfUri :=
          fun node hMem hUri => hMatch ⟨node, hMem, hUri⟩
        have hTaken : ¬ (nodes = [] ∨ settings.fallback = .fail) :=
          fun hUntaken => hNot ⟨h, hUnmatched, hUntaken⟩
        rw [not_or] at hTaken
        refine ⟨hTaken.1, .inr ?_⟩
        cases hPolicy : settings.fallback with
        | firstNode => rfl
        | fail => exact absurd hPolicy hTaken.2
    obtain ⟨located, hLocated⟩ := hLocated
    exact ⟨located, h, hLocated⟩
  · rintro ⟨located, hChosen⟩ hStranded
    obtain ⟨hNonempty, hChoice⟩ := exists_locate_iff.mp ⟨located, hChosen.location⟩
    rcases hChoice with ⟨node, hMem, hUri⟩ | hPolicy
    · exact hStranded.unmatched node hMem hUri
    · rcases hStranded.untaken with hNil | hFail
      · exact hNonempty hNil
      · rw [hPolicy] at hFail
        cases hFail

/-- Once a node is located, exactly one state counts as learned. -/
theorem Chosen.state_eq_iff {located : Located} {other : ClusterState}
    (h : Chosen plane settings start nodes state located) :
    some state = some other ↔
      ∃ nodes located, Chosen plane settings start nodes other located := by
  constructor
  · rintro ⟨⟩
    exact ⟨nodes, located, h⟩
  · rintro ⟨_, _, hOther⟩
    rw [h.toObserved.state_eq hOther.toObserved]

/-- The end of a run does not touch the state that it reports. -/
theorem clusterState_conclude (endpoint : String) (result : Except BootstrapError Unit)
    (p : Progress σ) :
    (conclude endpoint (result, p)).report.clusterState = p.report.clusterState := by
  cases result <;> rfl

/-- The state of a cluster is reported exactly by the runs that locate a node. -/
theorem Course.clusterState_eq_some_iff {result : Except BootstrapError Unit} {p : Progress σ}
    (hCourse : Course plane settings start result p) :
    p.report.clusterState = some state ↔
      ∃ nodes located, Chosen plane settings start nodes state located := by
  -- five courses end before a node is located, and four after it
  cases hCourse with
  | refused hFault =>
    refine ⟨nofun, fun ⟨_, _, hChosen⟩ => ?_⟩
    cases hFault.symm.trans hChosen.valid
  | unreachable hValid hAnswer =>
    refine ⟨nofun, fun ⟨_, _, hChosen⟩ => ?_⟩
    cases hAnswer.symm.trans hChosen.probe
  | unlisted hProbed hAnswer =>
    refine ⟨nofun, fun ⟨_, _, hChosen⟩ => ?_⟩
    cases hAnswer.symm.trans hChosen.servers
  | unobserved hListed hAnswer =>
    refine ⟨nofun, fun ⟨_, _, hChosen⟩ => ?_⟩
    cases hAnswer.symm.trans hChosen.clusterState
  | unlocated hObserved hLocation =>
    refine ⟨nofun, fun ⟨_, _, hChosen⟩ => ?_⟩
    cases hObserved.toListed.eq hChosen.toListed
    cases hObserved.state_eq hChosen.toObserved
    cases hLocation.symm.trans hChosen.location
  | unknownRole hChosen hRoles => exact hChosen.state_eq_iff
  | unanswered hRequested hAnswer => exact hRequested.state_eq_iff
  | rejected hRequested hAnswer hRejected => exact hRequested.state_eq_iff
  | completed hCompletes => exact hCompletes.state_eq_iff

/-- A run that is stranded reports the servers and why no node was taken, and nothing of the cluster. -/
theorem Stranded.report_eq (h : Stranded plane settings start nodes state) :
    ∃ e, locate nodes state settings.fallback = .error e ∧
      (bootstrap plane settings start).report =
        { phase := .failed, servers := nodes, error := some e } := by
  cases hLocation : locate nodes state settings.fallback with
  | ok located =>
    exact absurd h (h.toObserved.not_stranded_iff.mpr ⟨located, h.toObserved, hLocation⟩)
  | error e =>
    have hCourse := Course.unlocated h.toObserved hLocation
    refine ⟨e, rfl, ?_⟩
    rw [hCourse.bootstrap_eq]
    rfl

/-- The servers are reported by every run that lists them.  The state of the cluster is reported by every run
that learns it, whatever fails behind that, unless the run is stranded; the report of a stranded run
holds no state at all.  No state is reported that was not learned. -/
theorem bootstrap_keeps_iff (plane : ControlPlane σ) (settings : BootstrapSettings) (start : σ) :
    let report := (bootstrap plane settings start).report
    (∀ nodes, Listed plane settings start nodes → report.servers = nodes) ∧
    (∀ nodes state, Observed plane settings start nodes state →
      (report.clusterState = some state ↔ ¬ Stranded plane settings start nodes state) ∧
      (report.clusterState = none ↔ Stranded plane settings start nodes state)) ∧
    (∀ nodes state, Stranded plane settings start nodes state →
      ∃ e, locate nodes state settings.fallback = .error e ∧
        report = { phase := .failed, servers := nodes, error := some e }) ∧
    ∀ state, report.clusterState = some state →
      ∃ nodes, Observed plane settings start nodes state := by
  intro report
  have hReported : ∀ state, report.clusterState = some state ↔
      ∃ nodes located, Chosen plane settings start nodes state located := by
    intro state
    obtain ⟨result, p, hCourse⟩ := exists_course plane settings start
    show (bootstrap plane settings start).report.clusterState = some state ↔ _
    rw [hCourse.bootstrap_eq, clusterState_conclude]
    exact hCourse.clusterState_eq_some_iff
  refine ⟨fun nodes hListed => hListed.servers_eq, fun nodes state hObserved => ?_,
    fun nodes state hStranded => hStranded.report_eq, fun state hState => ?_⟩
  · have hKept : report.clusterState = some state ↔
        ¬ Stranded plane settings start nodes state := by
      rw [hReported, hObserved.not_stranded_iff]
      constructor
      · rintro ⟨others, located, hChosen⟩
        obtain rfl : others = nodes := hChosen.toListed.eq hObserved.toListed
        exact ⟨located, hChosen⟩
      · rintro ⟨located, hChosen⟩
        exact ⟨nodes, located, hChosen⟩
    refine ⟨hKept, fun hNone => ?_, fun hStranded => ?_⟩
    · -- a run that is not stranded reports what it learned
      by_contra hNot
      rw [hKept.mpr hNot] at hNone
      cases hNone
    · obtain ⟨e, -, hReport⟩ := hStranded.report_eq
      show (bootstrap plane settings start).report.clusterState = none
      rw [hReport]
  · obtain ⟨nodes, located, hChosen⟩ := (hReported state).mp hState
    exact ⟨nodes, hChosen.toObserved⟩

/-- A control plane that lists one server and knows itself by another uri. -/
def strangerToItself : ControlPlane Unit where
  endpoint := "a:1"
  probe := .quiet (.ok ())
  servers := .quiet (.ok [.ofUri "a:1"])
  clusterState := .quiet (.ok
    { selfUri := "c:3", selfUuid := "", failover := .disabled, knownRoles := .ofList ["key-value"]
      canBootstrapVshard := false, vshardBucketCount := 0 })
  assign _ := .quiet (.ok { accepted := true, envelope := .null })

/-- A strict run learns the state of this cluster and reports none. -/
theorem bootstrap_forgets_state :
    let settings : BootstrapSettings := { fallback := .fail }
    let report := (bootstrap strangerToItself settings ()).report
    ∃ nodes state, Observed strangerToItself settings () nodes state ∧
      report.servers = nodes ∧ report.clusterState = none ∧
      report.error = some (.selfNotListed "c:3" ["a:1"]) :=
  ⟨_, _, ⟨⟨⟨rfl, rfl⟩, rfl⟩, rfl⟩, rfl, rfl, rfl⟩

end ClusterBootstrap
