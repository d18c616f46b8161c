import ClusterBootstrap.Proofs.Run.Calls

/-!
# Runs that go alike

Few of the things that a run is answered settle how it goes: whether its calls succeed, which server is
chosen, whether the roles are known, and what the assignment comes to.  Two runs of the same settings that
agree in these make the same calls and report the same, but for the servers and the state of the cluster,
which each of them reports as it was answered.
-/

namespace ClusterBootstrap

variable {σ : Type}

/-! ## Answers that agree -/

/-- Two answers agree if they are the same error, or values that are related. -/
inductive Agree {α : Type} (r : α → α → Prop) :
    Except BootstrapError α → Except BootstrapError α → Prop where
  | error (e : BootstrapError) : Agree r (.error e) (.error e)
  | ok {a b : α} (h : r a b) : Agree r (.ok a) (.ok b)

section

variable {α : Type} {r : α → α → Prop}

theorem agree_of_eq {x y : Except BootstrapError α} (hRefl : ∀ a, r a a) (hEq : y = x) :
    Agree r x y := by
  subst hEq
  cases y with
  | error e => exact .error e
  | ok a => exact .ok (hRefl a)

theorem Agree.eq_error {x : Except BootstrapError α} {e : BootstrapError}
    (h : Agree r (.error e) x) : x = .error e := by
  cases h
  rfl

theorem Agree.exists_ok {x : Except BootstrapError α} {a : α} (h : Agree r (.ok a) x) :
    ∃ b, x = .ok b ∧ r a b := by
  cases h with
  | ok hRelated => exact ⟨_, rfl, hRelated⟩

end

/-- The same server is chosen in the same way, wherever in its list it stands. -/
structure Located.Same (located other : Located) : Prop where
  node : other.node = located.node
  selection : other.selection = located.selection

/-- Two runs of the same settings are answered alike.  Each answer is asked for only where the run comes to
it: behind an error nothing has to agree. -/
structure Alike (sameServers : List Node → List Node → Prop)
    (sameState : ClusterState → ClusterState → Prop) (settings : BootstrapSettings)
    (plane other : ControlPlane σ) (start otherStart : σ) : Prop where
  probed : (other.probed otherStart).answer = (plane.probed start).answer
  listed : Probed plane settings start →
    Agree sameServers (plane.listed start).answer (other.listed otherStart).answer
  observed : ∀ nodes, Listed plane settings start nodes →
    Agree sameState (plane.observed start).answer (other.observed otherStart).answer
  /-- Related servers and states settle the same choice. -/
  located : ∀ nodes others state otherState, Observed plane settings start nodes state →
    sameServers nodes others → sameState state otherState →
      Agree Located.Same (locate nodes state settings.fallback)
        (locate others otherState settings.fallback)
  /-- Related states know the same of the roles. -/
  known : ∀ state otherState, sameState state otherState →
    checkKnown settings.roles otherState = checkKnown settings.roles state
  assigned : ∀ nodes state located request,
    Requested plane settings start nodes state located request →
      (other.assigned otherStart request).answer = (plane.assigned start request).answer

/-! ## Runs that have done the same -/

/-- Two runs have made the same calls and report the same, but for the servers and the state of the
cluster, in which they are related. -/
structure Progress.Same (sameServers : List Node → List Node → Prop)
    (sameState : ClusterState → ClusterState → Prop) (p q : Progress σ) : Prop where
  calls : q.calls = p.calls
  report : q.report =
    { p.report with servers := q.report.servers, clusterState := q.report.clusterState }
  servers : sameServers p.report.servers q.report.servers
  clusterState : Option.Rel sameState p.report.clusterState q.report.clusterState

section

variable {sameServers : List Node → List Node → Prop}
  {sameState : ClusterState → ClusterState → Prop}

theorem Progress.same_discovering {nodes others : List Node} (hServers : sameServers nodes others)
    (s t : σ) (calls : List Call) (records otherRecords : List LogRecord) :
    Progress.Same sameServers sameState (.discovering nodes s calls records)
      (.discovering others t calls otherRecords) :=
  ⟨rfl, rfl, hServers, .none⟩

theorem Progress.same_assigning {nodes others : List Node} {state otherState : ClusterState}
    {located otherLocated : Located} (hServers : sameServers nodes others)
    (hState : sameState state otherState) (hLocated : located.Same otherLocated)
    (noted : Option AssignmentResult) (s t : σ) (calls : List Call)
    (before after otherBefore otherAfter : List LogRecord) :
    Progress.Same sameServers sameState
      (.assigning nodes state located noted s calls before after)
      (.assigning others otherState otherLocated noted t calls otherBefore otherAfter) where
  calls := rfl
  report := by simp [Progress.assigning, hLocated.node, hLocated.selection]
  servers := hServers
  clusterState := .some hState

/-- Runs that are told the same state report the same state. -/
theorem Progress.Same.clusterState_eq {p q : Progress σ}
    (h : Progress.Same sameServers (fun state other => other = state) p q) :
    q.report.clusterState = p.report.clusterState := by
  have hRel := h.clusterState
  generalize p.report.clusterState = state at hRel
  generalize q.report.clusterState = other at hRel
  cases hRel with
  | none => rfl
  | some hEq => rw [hEq]

/-- What ends two runs that have done the same ends them alike. -/
theorem Progress.Same.conclude {p q : Progress σ} (h : Progress.Same sameServers sameState p q)
    (endpoint otherEndpoint : String) (result : Except BootstrapError Unit) :
    Progress.Same sameServers sameState (ClusterBootstrap.conclude endpoint (result, p))
      (ClusterBootstrap.conclude otherEndpoint (result, q)) := by
  have hPhase : q.report.phase = p.report.phase := by rw [h.report]
  constructor
  · -- an ending makes no call
    cases result <;> exact h.calls
  · cases result <;>
      simp only [ClusterBootstrap.conclude, Run.enter, hPhase] <;> rw [h.report]
  · cases result <;> exact h.servers
  · cases result <;> exact h.clusterState

end

/-! ## The gates of two runs -/

section

variable {sameServers : List Node → List Node → Prop}
  {sameState : ClusterState → ClusterState → Prop} {settings : BootstrapSettings}
  {plane other : ControlPlane σ} {start otherStart : σ} {nodes : List Node} {state : ClusterState}
  {located : Located}

theorem Alike.probed_of (h : Alike sameServers sameState settings plane other start otherStart)
    (hProbed : Probed plane settings start) : Probed other settings otherStart :=
  ⟨hProbed.valid, h.probed.trans hProbed.probe⟩

theorem Alike.listed_of (h : Alike sameServers sameState settings plane other start otherStart)
    (hListed : Listed plane settings start nodes) :
    ∃ others, Listed other settings otherStart others ∧ sameServers nodes others := by
  have hAgree := h.listed hListed.toProbed
  rw [hListed.servers] at hAgree
  obtain ⟨others, hServers, hSame⟩ := hAgree.exists_ok
  exact ⟨others, ⟨h.probed_of hListed.toProbed, hServers⟩, hSame⟩

theorem Alike.observed_of (h : Alike sameServers sameState settings plane other start otherStart)
    (hObserved : Observed plane settings start nodes state) :
    ∃ others otherState, Observed other settings otherStart others otherState ∧
      sameServers nodes others ∧ sameState state otherState := by
  obtain ⟨others, hListed, hServers⟩ := h.listed_of hObserved.toListed
  have hAgree := h.observed nodes hObserved.toListed
  rw [hObserved.clusterState] at hAgree
  obtain ⟨otherState, hState, hSame⟩ := hAgree.exists_ok
  exact ⟨others, otherState, ⟨hListed, hState⟩, hServers, hSame⟩

theorem Alike.chosen_of (h : Alike sameServers sameState settings plane other start otherStart)
    (hChosen : Chosen plane settings start nodes state located) :
    ∃ others otherState otherLocated,
      Chosen other settings otherStart others otherState otherLocated ∧
        sameServers nodes others ∧ sameState state otherState ∧ located.Same otherLocated := by
  obtain ⟨others, otherState, hObserved, hServers, hState⟩ := h.observed_of hChosen.toObserved
  have hAgree := h.located _ _ _ _ hChosen.toObserved hServers hState
  rw [hChosen.location] at hAgree
  obtain ⟨otherLocated, hLocation, hSame⟩ := hAgree.exists_ok
  exact ⟨others, otherState, otherLocated, ⟨hObserved, hLocation⟩, hServers, hState, hSame⟩

/-- The assignment that is due in one run is due in the other. -/
theorem Alike.requested_of (h : Alike sameServers sameState settings plane other start otherStart)
    {request : AssignmentRequest}
    (hRequested : Requested plane settings start nodes state located request) :
    ∃ others otherState otherLocated,
      Requested other settings otherStart others otherState otherLocated request ∧
        sameServers nodes others ∧ sameState state otherState ∧ located.Same otherLocated := by
  obtain ⟨others, otherState, otherLocated, hChosen, hServers, hState, hSame⟩ :=
    h.chosen_of hRequested.toChosen
  have hKnown : checkKnown settings.roles otherState = .ok () := by
    rw [h.known state otherState hState]
    exact checkKnown_eq_ok_iff.mpr hRequested.known
  refine ⟨others, otherState, otherLocated, ?_, hServers, hState, hSame⟩
  exact ⟨hChosen, checkKnown_eq_ok_iff.mp hKnown, hRequested.node.trans hSame.node.symm,
    hRequested.roles⟩

/-! ## The courses of two runs -/

/-- To the course of a run that is answered alike belongs a course with the same outcome. -/
theorem Alike.course (h : Alike sameServers sameState settings plane other start otherStart)
    (hNone : sameServers [] []) {result : Except BootstrapError Unit} {p : Progress σ}
    (hCourse : Course plane settings start result p) :
    ∃ q, Course other settings otherStart result q ∧
      Progress.Same sameServers sameState p q := by
  -- the other run comes to the same gate, where it is told the same
  cases hCourse with
  | refused hFault => exact ⟨_, .refused hFault, rfl, rfl, hNone, .none⟩
  | unreachable hValid hAnswer =>
    exact ⟨_, .unreachable hValid (h.probed.trans hAnswer),
      Progress.same_discovering hNone _ _ _ _ _⟩
  | unlisted hProbed hAnswer =>
    have hAgree := h.listed hProbed
    rw [hAnswer] at hAgree
    exact ⟨_, .unlisted (h.probed_of hProbed) hAgree.eq_error,
      Progress.same_discovering hNone _ _ _ _ _⟩
  | unobserved hListed hAnswer =>
    obtain ⟨others, hOther, hServers⟩ := h.listed_of hListed
    have hAgree := h.observed _ hListed
    rw [hAnswer] at hAgree
    exact ⟨_, .unobserved hOther hAgree.eq_error, Progress.same_discovering hServers _ _ _ _ _⟩
  | unlocated hObserved hLocation =>
    obtain ⟨others, otherState, hOther, hServers, hState⟩ := h.observed_of hObserved
    have hAgree := h.located _ _ _ _ hObserved hServers hState
    rw [hLocation] at hAgree
    exact ⟨_, .unlocated hOther hAgree.eq_error, Progress.same_discovering hServers _ _ _ _ _⟩
  | unknownRole hChosen hRoles =>
    obtain ⟨others, otherState, otherLocated, hOther, hServers, hState, hSame⟩ :=
      h.chosen_of hChosen
    have hUnknown := (h.known _ _ hState).trans hRoles
    exact ⟨_, .unknownRole hOther hUnknown,
      Progress.same_assigning hServers hState hSame _ _ _ _ _ _ _ _⟩
  | unanswered hRequested hAnswer =>
    obtain ⟨others, otherState, otherLocated, hOther, hServers, hState, hSame⟩ :=
      h.requested_of hRequested
    have hError := (h.assigned _ _ _ _ hRequested).trans hAnswer
    exact ⟨_, .unanswered hOther hError,
      Progress.same_assigning hServers hState hSame _ _ _ _ _ _ _ _⟩
  | rejected hRequested hAnswer hRejected =>
    obtain ⟨others, otherState, otherLocated, hOther, hServers, hState, hSame⟩ :=
      h.requested_of hRequested
    have hResult := (h.assigned _ _ _ _ hRequested).trans hAnswer
    exact ⟨_, .rejected hOther hResult hRejected,
      Progress.same_assigning hServers hState hSame _ _ _ _ _ _ _ _⟩
  | completed hCompletes =>
    obtain ⟨others, otherState, otherLocated, hOther, hServers, hState, hSame⟩ :=
      h.requested_of hCompletes.toRequested
    have hResult := (h.assigned _ _ _ _ hCompletes.toRequested).trans hCompletes.answer
    exact ⟨_, .completed ⟨hOther, hResult, hCompletes.accepted⟩,
      Progress.same_assigning hServers hState hSame _ _ _ _ _ _ _ _⟩

/-- Two runs that are answered alike do the same. -/
theorem Alike.bootstrap_same
    (h : Alike sameServers sameState settings plane other start otherStart)
    (hNone : sameServers [] []) :
    Progress.Same sameServers sameState (bootstrap plane settings start)
      (bootstrap other settings otherStart) := by
  obtain ⟨result, p, hCourse⟩ := exists_course plane settings start
  obtain ⟨q, hOther, hSame⟩ := h.course hNone hCourse
  rw [hCourse.bootstrap_eq, hOther.bootstrap_eq]
  exact hSame.conclude _ _ result

end

end ClusterBootstrap
