import ClusterBootstrap.Proofs.Run.Alike
import ClusterBootstrap.Proofs.Run.Coherence
import Mathlib.Data.List.Nodup

/-!
# The order of the servers

Servers are listed in an order, and where none of them has the endpoint's own uri the first one is taken.
Where one of them does, and no uri is listed twice, the order counts for nothing: the run does the same in
every order, and only shows the servers in the one that it was told.
-/

namespace ClusterBootstrap

variable {σ : Type}

/-- The control plane, but that it lists these servers whenever it is asked for them. -/
def ControlPlane.listing (plane : ControlPlane σ) (nodes : List Node) : ControlPlane σ :=
  { plane with servers := fun s => { plane.servers s with answer := .ok nodes } }

/-- Two runs differ in nothing but the order in which they report the servers. -/
structure Reordered (run other : Progress σ) : Prop where
  /-- What is sent with a call is part of it, so the same roles go to the same node. -/
  calls : other.calls = run.calls
  report : other.report = { run.report with servers := other.report.servers }
  servers : other.report.servers.Perm run.report.servers
  exitCode : other.report.exitCode = run.report.exitCode
  table : other.report.serverLines.Perm run.report.serverLines
  /-- Behind the table the same is printed. -/
  printed : ∃ rest, run.report.lines = run.report.serverLines ++ rest ∧
    other.report.lines = other.report.serverLines ++ rest

/-! ## The choice of a node -/

/-- A server is told by its uri where no uri is listed twice. -/
theorem eq_of_uri_eq {nodes : List Node} (hDistinct : (nodes.map Node.uri).Nodup) {node other : Node}
    (hNode : node ∈ nodes) (hOther : other ∈ nodes) (hUri : node.uri = other.uri) : node = other :=
  List.inj_on_of_nodup_map hDistinct hNode hOther hUri

/-- In every order the same server matches. -/
theorem agree_locate_of_perm {nodes others : List Node} {state : ClusterState}
    (hPerm : others.Perm nodes) (hDistinct : (nodes.map Node.uri).Nodup)
    (hSelf : ∃ node ∈ nodes, node.uri = state.selfUri) (policy : FallbackPolicy) :
    Agree Located.Same (locate nodes state policy) (locate others state policy) := by
  obtain ⟨self, hMem, hUri⟩ := hSelf
  -- some server matches in either order, so neither choice asks the policy
  rcases exists_firstMatch_or_forall_ne nodes state with ⟨i, node, hNode⟩ | hNone
  · rcases exists_firstMatch_or_forall_ne others state with ⟨j, other, hOther⟩ | hNone
    · have hSame : other = node := by
        apply eq_of_uri_eq hDistinct (hPerm.subset hOther.mem) hNode.mem
        rw [hOther.uri, hNode.uri]
      rw [hNode.locate_eq, hOther.locate_eq]
      exact .ok ⟨hSame, rfl⟩
    · exact absurd hUri (hNone self (hPerm.symm.subset hMem))
  · exact absurd hUri (hNone self hMem)

/-! ## What is printed -/

theorem serverLines_perm {report other : Report} (hPerm : other.servers.Perm report.servers) :
    other.serverLines.Perm report.serverLines := by
  unfold Report.serverLines
  rw [hPerm.isEmpty_eq]
  split
  · exact .refl _
  · -- the line below the table stays where it is
    exact (hPerm.map Node.display).append_right _

/-- Reports that differ only in the servers print the same behind the table. -/
theorem exists_lines_of_report_eq {report other : Report}
    (hReport : other = { report with servers := other.servers }) :
    ∃ rest, report.lines = report.serverLines ++ rest ∧
      other.lines = other.serverLines ++ rest := by
  refine ⟨report.bootstrapLines ++ report.outcomeLines, ?_, ?_⟩
  · rw [Report.lines, List.append_assoc]
  · have hRest : other.bootstrapLines ++ other.outcomeLines =
        report.bootstrapLines ++ report.outcomeLines := by
      rw [hReport]
      rfl
    rw [Report.lines, List.append_assoc, hRest]

/-! ## Every order -/

/-- What is listed is reported. -/
theorem Listed.servers_eq {plane : ControlPlane σ} {settings : BootstrapSettings} {start : σ}
    {nodes : List Node} (hListed : Listed plane settings start nodes) :
    (bootstrap plane settings start).report.servers = nodes := by
  obtain ⟨_, _, hCourse⟩ := exists_course plane settings start
  exact hCourse.coherent.servers_of_listed nodes hListed

variable {plane : ControlPlane σ} {settings : BootstrapSettings} {start : σ}
  {nodes others : List Node} {state : ClusterState}

/-- A control plane that lists the same servers in another order is answered alike. -/
theorem alike_listing_of_perm (hListed : (plane.listed start).answer = .ok nodes)
    (hObserved : (plane.observed start).answer = .ok state)
    (hDistinct : (nodes.map Node.uri).Nodup) (hSelf : ∃ node ∈ nodes, node.uri = state.selfUri)
    (hPerm : others.Perm nodes) :
    Alike (fun nodes others => others.Perm nodes) (fun state other => other = state) settings
      plane (plane.listing others) start start where
  probed := rfl
  listed _ := by
    rw [hListed]
    exact .ok hPerm
  observed _ _ := agree_of_eq (fun _ => rfl) rfl
  located := by
    -- the run lists the servers that were listed, and observes the state that was observed
    rintro _ anyOrder _ _ hRun hOrder rfl
    cases hListed.symm.trans hRun.servers
    cases hObserved.symm.trans hRun.clusterState
    exact agree_locate_of_perm hOrder hDistinct hSelf settings.fallback
  known := by
    rintro state _ rfl
    rfl
  assigned _ _ _ _ _ := rfl

/-- Where the servers that are listed have distinct uris and one of them is the endpoint's own, the run with
any other order of them makes the same calls and reports the same, but for the order of the servers. -/
theorem bootstrap_listing_perm (plane : ControlPlane σ) (settings : BootstrapSettings) (start : σ)
    {nodes others : List Node} {state : ClusterState}
    (hListed : (plane.listed start).answer = .ok nodes)
    (hObserved : (plane.observed start).answer = .ok state)
    (hDistinct : (nodes.map Node.uri).Nodup) (hSelf : ∃ node ∈ nodes, node.uri = state.selfUri)
    (hPerm : others.Perm nodes) :
    let run := bootstrap plane settings start
    let other := bootstrap (plane.listing others) settings start
    Reordered run other ∧
      (Probed plane settings start → run.report.servers = nodes ∧ other.report.servers = others) := by
  intro run other
  have hAlike : Alike _ _ settings plane (plane.listing others) start start :=
    alike_listing_of_perm hListed hObserved hDistinct hSelf hPerm
  have hSame := hAlike.bootstrap_same (List.Perm.refl [])
  -- the same state is reported, so that the servers alone are left to differ
  have hState : other.report.clusterState = run.report.clusterState :=
    hSame.clusterState_eq
  have hReport : other.report = { run.report with servers := other.report.servers } := by
    refine hSame.report.trans ?_
    rw [hSame.clusterState_eq]
  have hExit : other.report.exitCode = run.report.exitCode := by
    rw [hReport]
    rfl
  refine ⟨⟨hSame.calls, hReport, hSame.servers, hExit, serverLines_perm hSame.servers,
    exists_lines_of_report_eq hReport⟩, fun hProbed => ?_⟩
  exact ⟨Listed.servers_eq ⟨hProbed, hListed⟩, Listed.servers_eq ⟨hAlike.probed_of hProbed, rfl⟩⟩

theorem source_nil : ∀ record ∈ ([] : List LogRecord), record.source = .client :=
  List.forall_mem_nil _

/-- What a call did that left nothing but its answer. -/
def Outcome.quiet {α : Type} (answer : Except BootstrapError α) (s : σ) : Outcome σ α where
  answer := answer
  next := s
  fromClient := source_nil

/-- The second of two servers, which knows itself and the default role, and accepts what it is sent. -/
def secondOfTwo : ControlPlane Unit where
  endpoint := "b:2"
  probe := .quiet (.ok ())
  servers := .quiet (.ok [.ofUri "a:1", .ofUri "b:2"])
  clusterState := .quiet (.ok
    { selfUri := "b:2", selfUuid := "", failover := .disabled, knownRoles := .ofList ["key-value"]
      canBootstrapVshard := false, vshardBucketCount := 0 })
  assign _ := .quiet (.ok { accepted := true, envelope := .null })

/-- It is assigned the role in either order of the two. -/
theorem bootstrap_listing_swapped :
    let run := bootstrap secondOfTwo .default ()
    let swapped := bootstrap (secondOfTwo.listing [.ofUri "b:2", .ofUri "a:1"]) .default ()
    Probed secondOfTwo .default () ∧ run.report.bootstrap = some (.ofUri "b:2") ∧
      run.report.phase = .done ∧ Reordered run swapped ∧
        swapped.report.servers = [.ofUri "b:2", .ofUri "a:1"] := by
  have hProbed : Probed secondOfTwo .default () := ⟨rfl, rfl⟩
  have hPerm : [Node.ofUri "b:2", .ofUri "a:1"].Perm [.ofUri "a:1", .ofUri "b:2"] := .swap ..
  obtain ⟨hReordered, hServers⟩ :=
    bootstrap_listing_perm secondOfTwo .default () rfl rfl (by decide)
      ⟨.ofUri "b:2", by decide, rfl⟩ hPerm
  exact ⟨hProbed, rfl, rfl, hReordered, (hServers hProbed).2⟩

end ClusterBootstrap
