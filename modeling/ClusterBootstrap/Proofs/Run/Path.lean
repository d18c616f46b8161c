import ClusterBootstrap.Proofs.Run.Course
import ClusterBootstrap.Proofs.Text.Ending

/-!
# The path of a run

A change of phase that is not allowed is ignored, so that a run which asked for one would be stuck where
it is.  No run does: each goes through its phases in order, and its log tells exactly that.
-/

namespace ClusterBootstrap

variable {σ : Type}

/-! ## Paths and their records -/

/-- The phases that a run has entered, in order.  A change that is not allowed enters nothing. -/
def Progress.path (p : Progress σ) : List Phase :=
  .idle :: (p.asked.filter fun change => change.1.canAdvanceTo change.2).map Prod.snd

/-- The phases on the way to a phase that is not final. -/
def Phase.approach : Phase → List Phase
  | .idle => [.idle]
  | .discovering => [.idle, .discovering]
  | .located => [.idle, .discovering, .located]
  | _ => [.idle, .discovering, .located, .assigning]

/-- The consecutive pairs of a path. -/
def changes (path : List Phase) : List (Phase × Phase) := path.zip path.tail

/-- A path is its first phase and what its pairs lead to. -/
theorem cons_map_snd_changes (first : Phase) (rest : List Phase) :
    first :: (changes (first :: rest)).map Prod.snd = first :: rest := by
  rw [changes, List.tail_cons, List.map_snd_zip (by simp)]

/-- The record of a change of phase that is made. -/
def changeRecord (change : Phase × Phase) : LogRecord :=
  { level := .info, source := .orchestrator
    text := "Run state " ++ change.1.name ++ " -> " ++ change.2.name }

theorem blank_notMem_name (phase : Phase) : ' ' ∉ phase.name.toList := by
  cases phase <;> decide

/-- The text of a change tells both phases, for blanks divide it and no name has one. -/
theorem changeRecord_injective {change other : Phase × Phase}
    (h : changeRecord change = changeRecord other) : change = other := by
  have hParts (change : Phase × Phase) : Text.parts ' ' (changeRecord change).text.toList =
      ["Run".toList, "state".toList, change.1.name.toList, "->".toList,
        change.2.name.toList] := by
    have hText : (changeRecord change).text.toList = "Run".toList ++ ' ' :: ("state".toList ++
        ' ' :: (change.1.name.toList ++ ' ' :: ("->".toList ++ ' ' :: change.2.name.toList))) := by
      simp [changeRecord]
    rw [hText, Text.parts_append, Text.parts_append, Text.parts_append, Text.parts_append,
      Text.parts_of_not_mem (blank_notMem_name change.1),
      Text.parts_of_not_mem (blank_notMem_name change.2)]
    rfl
  have hSame := congrArg (fun record => Text.parts ' ' record.text.toList) h
  simp only [hParts, List.cons.injEq, true_and, and_true, String.toList_inj] at hSame
  exact Prod.ext (Phase.name_injective hSame.1) (Phase.name_injective hSame.2)

/-- Whether a record tells of a change of phase that was made. -/
def LogRecord.isChange (r : LogRecord) : Bool := r.source = .orchestrator && r.level = .info

/-- Whether a record tells of an error, and was not written by the control plane. -/
def LogRecord.isFailure (r : LogRecord) : Bool := r.source ≠ .client && r.level = .error

theorem changes_concat {path : List Phase} {phase : Phase} (next : Phase)
    (hLast : path.getLast? = some phase) :
    changes (path ++ [next]) = changes path ++ [(phase, next)] := by
  -- on the path, for only its last phase is left without a successor
  induction path with
  | nil => cases hLast
  | cons first rest ih =>
    cases rest with
    | nil =>
      cases hLast
      rfl
    | cons second rest =>
      have hRest := ih (by simpa using hLast)
      simpa [changes] using hRest

theorem phaseRecord_of_canAdvanceTo {phase next : Phase}
    (hAllowed : phase.canAdvanceTo next = true) :
    Run.phaseRecord phase next = changeRecord (phase, next) := by
  simp [Run.phaseRecord, hAllowed, changeRecord]

/-- A change that is allowed is entered. -/
theorem path_enter {p : Progress σ} {next : Phase}
    (hAllowed : p.report.phase.canAdvanceTo next = true) :
    (Run.enter next p).path = p.path ++ [next] := by
  simp [Progress.path, Run.enter, hAllowed]

/-! ## Progress that is told as it was made -/

/-- No change of phase was ignored, the path leads to the phase of the report, and the log tells of the
path and of these failures. -/
structure Faithful (failures : List LogRecord) (p : Progress σ) : Prop where
  allowed : ∀ change ∈ p.asked, change.1.canAdvanceTo change.2 = true
  getLast : p.path.getLast? = some p.report.phase
  log : p.log.filter LogRecord.isChange = (changes p.path).map changeRecord
  failed : p.log.filter LogRecord.isFailure = failures

/-- Entering a phase that is allowed is told as it is made. -/
theorem Faithful.enter {failures : List LogRecord} {p : Progress σ}
    (h : Faithful failures p) (next : Phase) (hAllowed : p.report.phase.canAdvanceTo next = true) :
    Faithful failures (Run.enter next p) := by
  have hPath := path_enter hAllowed
  have hRecord := phaseRecord_of_canAdvanceTo hAllowed
  constructor
  · intro change hMem
    rcases List.mem_append.mp hMem with hOld | hNew
    · exact h.allowed change hOld
    · obtain rfl := List.mem_singleton.mp hNew
      exact hAllowed
  · -- only a change that is allowed leaves the report in the phase asked for
    have hPhase : (Run.enter next p).report.phase = next := if_pos hAllowed
    rw [hPath, hPhase, List.getLast?_concat]
  · rw [hPath, changes_concat next h.getLast, List.map_append, ← h.log]
    simp [Run.enter, hRecord, changeRecord, LogRecord.isChange]
  · rw [← h.failed]
    simp [Run.enter, hRecord, changeRecord, LogRecord.isFailure]

/-- A failure is told before the run ends with it. -/
theorem Faithful.fail {p : Progress σ} (h : Faithful [] p) (endpoint : String)
    (e : BootstrapError) :
    Faithful [failureRecord endpoint p.report.phase e]
      { p with
        report := { p.report with error := some e }
        log := p.log ++ [failureRecord endpoint p.report.phase e] } where
  allowed := h.allowed
  getLast := h.getLast
  log := by
    rw [List.filter_append, h.log]
    simp [failureRecord, LogRecord.isChange, Progress.path]
  failed := by
    rw [List.filter_append, h.failed]
    simp [failureRecord, LogRecord.isFailure]

/-! ## The steps of a run -/

/-- Records that tell neither of changes of phase nor of failures. -/
def Silent (records : List LogRecord) : Prop :=
  ∀ r ∈ records, r.isChange = false ∧ r.isFailure = false

theorem Silent.append {first second : List LogRecord} (hFirst : Silent first)
    (hSecond : Silent second) : Silent (first ++ second) :=
  List.forall_mem_append.mpr ⟨hFirst, hSecond⟩

/-- The records of a call are silent. -/
theorem Outcome.silent {α : Type} (outcome : Outcome σ α) : Silent outcome.log := by
  intro r hMem
  have hSource := outcome.fromClient r hMem
  simp [LogRecord.isChange, LogRecord.isFailure, hSource]

theorem silent_readLog (plane : ControlPlane σ) (start : σ) : Silent (plane.readLog start) :=
  ((Outcome.silent _).append (Outcome.silent _)).append (Outcome.silent _)

/-- The choice of a node is silent, for a fallback is only warned of. -/
theorem silent_located_log (located : Located) (nodes : List Node) (state : ClusterState) :
    Silent (located.log nodes state) := by
  unfold Located.log
  cases located.selection with
  | selfMatch => simp [Silent]
  | fallback => simp [Silent, LogRecord.isChange, LogRecord.isFailure]

/-- An assignment is silent, whatever is answered. -/
theorem silent_assignment {α : Type} (node : Node) (roles : List String)
    (outcome : Outcome σ α) : Silent (assigningRecord node roles :: outcome.log) := by
  refine List.forall_mem_cons.mpr ⟨?_, outcome.silent⟩
  simp [assigningRecord, LogRecord.isChange, LogRecord.isFailure]

/-- Whatever leaves the phase alone and adds only silent records is told as it is made. -/
theorem Faithful.extend {failures records : List LogRecord} {p q : Progress σ}
    (h : Faithful failures p) (hSilent : Silent records) (hAsked : q.asked = p.asked)
    (hPhase : q.report.phase = p.report.phase) (hLog : q.log = p.log ++ records) :
    Faithful failures q := by
  have hPath : q.path = p.path := by rw [Progress.path, Progress.path, hAsked]
  have hChanges : records.filter LogRecord.isChange = [] :=
    List.filter_eq_nil_iff.mpr fun r hMem => by simp [(hSilent r hMem).1]
  have hFailures : records.filter LogRecord.isFailure = [] :=
    List.filter_eq_nil_iff.mpr fun r hMem => by simp [(hSilent r hMem).2]
  constructor
  · rw [hAsked]
    exact h.allowed
  · rw [hPath, hPhase]
    exact h.getLast
  · rw [hLog, List.filter_append, hChanges, List.append_nil, hPath]
    exact h.log
  · rw [hLog, List.filter_append, hFailures, List.append_nil]
    exact h.failed

theorem faithful_idle (s : σ) : Faithful [] ({ plane := s } : Progress σ) := by
  constructor
  · intro change hMem
    cases hMem
  · rfl
  · rfl
  · rfl

theorem faithful_discovering (servers : List Node) (s : σ) (calls : List Call)
    {records : List LogRecord} (hSilent : Silent records) :
    Faithful [] (Progress.discovering servers s calls records) := by
  have hEntered := (faithful_idle s).enter .discovering rfl
  exact hEntered.extend hSilent rfl rfl rfl

theorem faithful_assigning (nodes : List Node) (state : ClusterState) (located : Located)
    (result : Option AssignmentResult) (s : σ) (calls : List Call)
    {before after : List LogRecord} (hBefore : Silent before) (hAfter : Silent after) :
    Faithful [] (Progress.assigning nodes state located result s calls before after) := by
  -- the choice of a node still belongs to discovery, and both changes of phase follow it
  have hChoice := hBefore.append (silent_located_log located nodes state)
  have hSettled := faithful_discovering nodes s calls hChoice
  have hEntered := (hSettled.enter .located rfl).enter .assigning rfl
  refine hEntered.extend hAfter rfl rfl ?_
  simp [Progress.assigning, Progress.discovering, Run.enter, Phase.advance, Phase.canAdvanceTo]

variable {plane : ControlPlane σ} {settings : BootstrapSettings} {start : σ}

/-- Up to its outcome, a run is told as it is made, and no failure is told. -/
theorem Course.faithful {result : Except BootstrapError Unit} {p : Progress σ}
    (hCourse : Course plane settings start result p) : Faithful [] p := by
  have hRead := silent_readLog plane start
  cases hCourse with
  | refused hFault => exact faithful_idle _
  | unreachable hValid hAnswer => exact faithful_discovering _ _ _ (Outcome.silent _)
  | unlisted hProbed hAnswer =>
    exact faithful_discovering _ _ _ ((Outcome.silent _).append (Outcome.silent _))
  | unobserved hListed hAnswer => exact faithful_discovering _ _ _ hRead
  | unlocated hObserved hLocation => exact faithful_discovering _ _ _ hRead
  | unknownRole hChosen hRoles =>
    exact faithful_assigning _ _ _ _ _ _ hRead (List.forall_mem_nil _)
  | unanswered hRequested hAnswer =>
    exact faithful_assigning _ _ _ _ _ _ hRead (silent_assignment _ _ _)
  | rejected hRequested hAnswer hRejected =>
    exact faithful_assigning _ _ _ _ _ _ hRead (silent_assignment _ _ _)
  | completed hCompletes =>
    exact faithful_assigning _ _ _ _ _ _ hRead (silent_assignment _ _ _)

/-- Up to its outcome, a run has gone straight to the phase it is in. -/
theorem Course.path_eq {result : Except BootstrapError Unit} {p : Progress σ}
    (hCourse : Course plane settings start result p) : p.path = p.report.phase.approach := by
  cases hCourse <;> rfl

/-! ## Whole runs -/

theorem Gate.canAdvanceTo_failed (gate : Gate) : gate.phase.canAdvanceTo .failed = true := by
  cases gate <;> rfl

/-- A run that fails at a gate goes straight to it and then to its end. -/
theorem FailsAt.path_eq {gate : Gate} {e : BootstrapError}
    (hFails : FailsAt plane settings start gate e) :
    (bootstrap plane settings start).path = gate.phase.approach ++ [.failed] := by
  obtain ⟨p, hCourse, hPhase⟩ := hFails.course
  have hAllowed : p.report.phase.canAdvanceTo .failed = true := by
    rw [hPhase]
    exact gate.canAdvanceTo_failed
  rw [hCourse.bootstrap_eq, ← hPhase, ← hCourse.path_eq]
  exact path_enter hAllowed

theorem FailsAt.error_eq {gate : Gate} {e : BootstrapError}
    (hFails : FailsAt plane settings start gate e) :
    (bootstrap plane settings start).report.error = some e := by
  obtain ⟨p, hCourse, -⟩ := hFails.course
  rw [hCourse.bootstrap_eq]
  rfl

/-- A run that fails at a gate tells of one failure, in the phase of the gate. -/
theorem FailsAt.faithful {gate : Gate} {e : BootstrapError}
    (hFails : FailsAt plane settings start gate e) :
    Faithful [failureRecord plane.endpoint gate.phase e] (bootstrap plane settings start) := by
  obtain ⟨p, hCourse, hPhase⟩ := hFails.course
  have hAllowed : p.report.phase.canAdvanceTo .failed = true := by
    rw [hPhase]
    exact gate.canAdvanceTo_failed
  have hTold := hCourse.faithful.fail plane.endpoint e
  rw [hCourse.bootstrap_eq, ← hPhase]
  exact hTold.enter .failed hAllowed

theorem FailsAt.phase_eq {gate : Gate} {e : BootstrapError}
    (hFails : FailsAt plane settings start gate e) :
    (bootstrap plane settings start).report.phase = .failed := by
  -- the phase of the report is the last one of the path
  have hLast := hFails.faithful.getLast
  rw [hFails.path_eq, List.getLast?_concat] at hLast
  exact (Option.some.inj hLast).symm

section

variable {nodes : List Node} {state : ClusterState} {located : Located}
  {request : AssignmentRequest} {result : AssignmentResult}

/-- A run that passes all gates goes straight to its goal. -/
theorem Completes.path_eq
    (hCompletes : Completes plane settings start nodes state located request result) :
    (bootstrap plane settings start).path = Phase.assigning.approach ++ [.done] := by
  rw [(Course.completed hCompletes).bootstrap_eq]
  rfl

/-- A run that passes all gates tells of no failure. -/
theorem Completes.faithful
    (hCompletes : Completes plane settings start nodes state located request result) :
    Faithful [] (bootstrap plane settings start) := by
  have hCourse := Course.completed hCompletes
  rw [hCourse.bootstrap_eq]
  exact hCourse.faithful.enter .done rfl

theorem Completes.phase_eq
    (hCompletes : Completes plane settings start nodes state located request result) :
    (bootstrap plane settings start).report.phase = .done := by
  rw [(Course.completed hCompletes).bootstrap_eq]
  rfl

end

theorem exists_faithful (plane : ControlPlane σ) (settings : BootstrapSettings) (start : σ) :
    ∃ failures, Faithful failures (bootstrap plane settings start) := by
  rcases exists_failsAt_or_completes plane settings start with
    ⟨gate, e, hFails⟩ | ⟨_, _, _, _, _, hCompletes⟩
  · exact ⟨_, hFails.faithful⟩
  · exact ⟨_, hCompletes.faithful⟩

/-- The log tells the path: two runs that log the same changes of phase have gone the same way, whatever
else they did. -/
theorem path_eq_of_log {τ : Type} {other : ControlPlane τ} {otherSettings : BootstrapSettings}
    {otherStart : τ}
    (hLog : (bootstrap plane settings start).log.filter LogRecord.isChange =
      (bootstrap other otherSettings otherStart).log.filter LogRecord.isChange) :
    (bootstrap plane settings start).path = (bootstrap other otherSettings otherStart).path := by
  obtain ⟨_, hFaithful⟩ := exists_faithful plane settings start
  obtain ⟨_, hOther⟩ := exists_faithful other otherSettings otherStart
  rw [hFaithful.log, hOther.log] at hLog
  have hChanges := (List.map_inj_right fun _ _ => changeRecord_injective).mp hLog
  -- every path starts in the first phase
  rw [Progress.path, Progress.path] at hChanges ⊢
  rw [← cons_map_snd_changes, hChanges, cons_map_snd_changes]

/-! ## Where a run fails -/

theorem approach_injective {phase other : Phase} (hPhase : phase.isTerminal = false)
    (hOther : other.isTerminal = false) (h : phase.approach = other.approach) : phase = other := by
  cases phase <;> cases other <;> simp_all [Phase.approach, Phase.isTerminal]

theorem Gate.phase_not_terminal (gate : Gate) : gate.phase.isTerminal = false := by
  cases gate <;> rfl

theorem Gate.phase_eq_idle_iff {gate : Gate} : gate.phase = .idle ↔ gate = .settings := by
  cases gate <;> decide

theorem Gate.phase_eq_discovering_iff {gate : Gate} :
    gate.phase = .discovering ↔ gate ∈ [Gate.probe, .servers, .clusterState, .location] := by
  cases gate <;> decide

theorem Gate.phase_eq_assigning_iff {gate : Gate} :
    gate.phase = .assigning ↔ gate ∈ [Gate.roles, .assignment, .verdict] := by
  cases gate <;> decide

/-- The phase in which a run fails is that of the gate it fails at. -/
theorem path_eq_failed_iff (phase : Phase) (hPhase : phase.isTerminal = false) :
    (bootstrap plane settings start).path = phase.approach ++ [.failed] ↔
      ∃ gate : Gate, gate.phase = phase ∧ ∃ e, FailsAt plane settings start gate e := by
  constructor
  · intro hPath
    rcases exists_failsAt_or_completes plane settings start with
      ⟨gate, e, hFails⟩ | ⟨_, _, _, _, _, hCompletes⟩
    · -- the path tells the phase, for no two phases before the last are approached alike
      have hApproach := List.append_cancel_right (hFails.path_eq.symm.trans hPath)
      exact ⟨gate, approach_injective gate.phase_not_terminal hPhase hApproach, e, hFails⟩
    · -- the two paths end differently
      have hLast := congrArg List.getLast? (hCompletes.path_eq.symm.trans hPath)
      simp at hLast
  · rintro ⟨gate, rfl, e, hFails⟩
    exact hFails.path_eq

/-- A run reaches its goal exactly when no gate stops it. -/
theorem path_eq_done_iff :
    (bootstrap plane settings start).path = Phase.assigning.approach ++ [.done] ↔
      ∀ gate e, ¬ FailsAt plane settings start gate e := by
  constructor
  · intro hPath gate e hFails
    have hLast := congrArg List.getLast? (hFails.path_eq.symm.trans hPath)
    simp at hLast
  · intro hNone
    rcases exists_failsAt_or_completes plane settings start with
      ⟨gate, e, hFails⟩ | ⟨_, _, _, _, _, hCompletes⟩
    · exact absurd hFails (hNone gate e)
    · exact hCompletes.path_eq

theorem failsAt_settings_iff :
    (∃ e, FailsAt plane settings start .settings e) ↔
      ∃ fault, settings.validate = .error fault := by
  constructor
  · rintro ⟨_, hFails⟩
    cases hFails with
    | settings hFault => exact ⟨_, hFault⟩
  · rintro ⟨fault, hFault⟩
    exact ⟨_, .settings hFault⟩

/-- A run goes straight to its end, fails where its gates say, and its log tells exactly that. -/
structure Straight (plane : ControlPlane σ) (settings : BootstrapSettings) (start : σ)
    (run : Progress σ) : Prop where
  /-- No change of phase that was asked for was ignored. -/
  allowed : ∀ change ∈ run.asked, change.1.canAdvanceTo change.2 = true
  ends : run.path.getLast? = some run.report.phase
  paths : run.path = [.idle, .discovering, .located, .assigning, .done] ∨
    run.path = [.idle, .failed] ∨ run.path = [.idle, .discovering, .failed] ∨
      run.path = [.idle, .discovering, .located, .assigning, .failed]
  done_iff : run.path = [.idle, .discovering, .located, .assigning, .done] ↔
    ∀ gate e, ¬ FailsAt plane settings start gate e
  idle_failed_iff : run.path = [.idle, .failed] ↔ ∃ fault, settings.validate = .error fault
  discovering_failed_iff : run.path = [.idle, .discovering, .failed] ↔
    ∃ gate ∈ [Gate.probe, .servers, .clusterState, .location],
      ∃ e, FailsAt plane settings start gate e
  assigning_failed_iff : run.path = [.idle, .discovering, .located, .assigning, .failed] ↔
    ∃ gate ∈ [Gate.roles, .assignment, .verdict], ∃ e, FailsAt plane settings start gate e
  error : ∀ gate e, FailsAt plane settings start gate e → run.report.error = some e
  /-- The log tells the consecutive pairs of the path, in order. -/
  changes : run.log.filter LogRecord.isChange = (changes run.path).map changeRecord
  no_failure : run.report.phase = .done → run.log.filter LogRecord.isFailure = []
  /-- The one failure in the log names the endpoint, the phase before the last, and the error. -/
  one_failure : run.report.phase = .failed → ∃ stem before e,
    run.path = stem ++ [before, .failed] ∧ run.report.error = some e ∧
      run.log.filter LogRecord.isFailure =
        [{ level := .error, source := .orchestrator
           text := "Bootstrap of " ++ plane.endpoint ++ " failed in " ++ before.name ++ ": " ++
            e.message }]

/-- The path of a run is one of four. -/
theorem path_cases (plane : ControlPlane σ) (settings : BootstrapSettings) (start : σ) :
    let path := (bootstrap plane settings start).path
    path = [.idle, .discovering, .located, .assigning, .done] ∨ path = [.idle, .failed] ∨
      path = [.idle, .discovering, .failed] ∨
        path = [.idle, .discovering, .located, .assigning, .failed] := by
  rcases exists_failsAt_or_completes plane settings start with
    ⟨gate, e, hFails⟩ | ⟨_, _, _, _, _, hCompletes⟩
  · have hPath := hFails.path_eq
    cases gate <;> simp [hPath, Gate.phase, Phase.approach]
  · exact .inl hCompletes.path_eq

/-- The last phase but one of a run that fails at a gate is that of the gate. -/
theorem Gate.approach_eq (gate : Gate) : ∃ stem, gate.phase.approach = stem ++ [gate.phase] := by
  cases gate with
  | settings => exact ⟨[], rfl⟩
  | probe | servers | clusterState | location => exact ⟨[.idle], rfl⟩
  | roles | assignment | verdict => exact ⟨[.idle, .discovering, .located], rfl⟩

theorem FailsAt.one_failure {gate : Gate} {e : BootstrapError}
    (hFails : FailsAt plane settings start gate e) :
    let run := bootstrap plane settings start
    ∃ stem before e, run.path = stem ++ [before, .failed] ∧ run.report.error = some e ∧
      run.log.filter LogRecord.isFailure = [failureRecord plane.endpoint before e] := by
  obtain ⟨stem, hStem⟩ := gate.approach_eq
  refine ⟨stem, gate.phase, e, ?_, hFails.error_eq, hFails.faithful.failed⟩
  rw [hFails.path_eq, hStem, List.append_assoc, List.singleton_append]

/-- Whatever the plane answers, a run goes straight to its end and its log tells how. -/
theorem straight_bootstrap (plane : ControlPlane σ) (settings : BootstrapSettings) (start : σ) :
    Straight plane settings start (bootstrap plane settings start) := by
  obtain ⟨failures, hFaithful⟩ := exists_faithful plane settings start
  constructor
  case allowed => exact hFaithful.allowed
  case ends => exact hFaithful.getLast
  case changes => exact hFaithful.log
  case paths => exact path_cases plane settings start
  case done_iff => exact path_eq_done_iff
  case idle_failed_iff =>
    refine (path_eq_failed_iff .idle rfl).trans ?_
    simp only [Gate.phase_eq_idle_iff, exists_eq_left, failsAt_settings_iff]
  case discovering_failed_iff =>
    refine (path_eq_failed_iff .discovering rfl).trans ?_
    simp only [Gate.phase_eq_discovering_iff]
  case assigning_failed_iff =>
    refine (path_eq_failed_iff .assigning rfl).trans ?_
    simp only [Gate.phase_eq_assigning_iff]
  case error => exact fun gate e hFails => hFails.error_eq
  case no_failure =>
    intro hDone
    rcases exists_failsAt_or_completes plane settings start with
      ⟨gate, e, hFails⟩ | ⟨_, _, _, _, _, hCompletes⟩
    · cases hDone.symm.trans hFails.phase_eq
    · exact hCompletes.faithful.failed
  case one_failure =>
    intro hFailed
    rcases exists_failsAt_or_completes plane settings start with
      ⟨gate, e, hFails⟩ | ⟨_, _, _, _, _, hCompletes⟩
    · exact hFails.one_failure
    · cases hFailed.symm.trans hCompletes.phase_eq

end ClusterBootstrap
