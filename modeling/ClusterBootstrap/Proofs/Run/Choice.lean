import ClusterBootstrap.Proofs.Run.Alike
import ClusterBootstrap.Proofs.Run.Location

/-!
# What the choice of a node comes to

A search for the bootstrap node ends in one of four ways: the first server with the endpoint's own uri, no
servers at all, the first server with a warning, or an error that names all servers.  Which one it is, and at
which place of the list, is settled by the uris, the endpoint's own uri and the policy.
-/

namespace ClusterBootstrap

variable {σ : Type} {nodes others : List Node} {state other : ClusterState} {policy : FallbackPolicy}

/-! ## The four ways -/

/-- The warning that the first server is taken for want of a match. -/
def fallbackWarning (selfUri : String) (count : Nat) (firstUri : String) : LogRecord :=
  { level := .warn, source := .locator
    text := "Self uri " ++ Text.quoted selfUri ++ " is not among " ++ toString count ++
      " discovered servers, falling back to " ++ firstUri }

/-- What a search comes to under a policy, and the records that are written about it. -/
inductive Choice (nodes : List Node) (state : ClusterState) :
    FallbackPolicy → Except BootstrapError Located → List LogRecord → Prop where
  | selfMatch {policy : FallbackPolicy} {index : Nat} {node : Node}
      (hMatch : FirstMatch nodes state index node) :
    Choice nodes state policy (.ok { index, node, selection := .selfMatch }) []
  | noServers {policy : FallbackPolicy} (hNodes : nodes = []) :
    Choice nodes state policy (.error .noServers) []
  | fallback {first : Node} (hFirst : nodes[0]? = some first)
      (hNone : ∀ node ∈ nodes, node.uri ≠ state.selfUri) :
    Choice nodes state .firstNode (.ok { index := 0, node := first, selection := .fallback })
      [fallbackWarning state.selfUri nodes.length first.uri]
  | selfNotListed (hNodes : nodes ≠ []) (hNone : ∀ node ∈ nodes, node.uri ≠ state.selfUri) :
    Choice nodes state .fail (.error (.selfNotListed state.selfUri (nodes.map Node.uri))) []

/-- The records that go with an answer: those of a located node, and none with an error. -/
def choiceLog (nodes : List Node) (state : ClusterState) :
    Except BootstrapError Located → List LogRecord
  | .ok located => located.log nodes state
  | .error _ => []

/-- Every search ends in one of the four ways. -/
theorem exists_choice (nodes : List Node) (state : ClusterState) (policy : FallbackPolicy) :
    ∃ answer log, Choice nodes state policy answer log := by
  rcases exists_firstMatch_or_forall_ne nodes state with ⟨index, node, hMatch⟩ | hNone
  · exact ⟨_, _, .selfMatch hMatch⟩
  · cases nodes with
    | nil => exact ⟨_, _, .noServers rfl⟩
    | cons first rest =>
      -- the policy is asked last
      cases policy with
      | firstNode => exact ⟨_, _, .fallback rfl hNone⟩
      | fail => exact ⟨_, _, .selfNotListed (List.cons_ne_nil _ _) hNone⟩

/-- The node is located in the way that its choice says. -/
theorem Choice.locate_eq {answer : Except BootstrapError Located} {log : List LogRecord}
    (h : Choice nodes state policy answer log) :
    locate nodes state policy = answer ∧ choiceLog nodes state answer = log := by
  cases h with
  | selfMatch hMatch => exact ⟨hMatch.locate_eq, rfl⟩
  | noServers hNodes =>
    subst hNodes
    exact ⟨locate_nil, rfl⟩
  | fallback hFirst hNone =>
    cases nodes with
    | nil => cases hFirst
    | cons first rest =>
      cases hFirst
      exact ⟨(locate_cons_of_forall_ne hNone).1, rfl⟩
  | selfNotListed hNodes hNone =>
    obtain ⟨first, rest, rfl⟩ := List.exists_cons_of_ne_nil hNodes
    exact ⟨(locate_cons_of_forall_ne hNone).2, rfl⟩

theorem choice_iff {answer : Except BootstrapError Located} {log : List LogRecord} :
    Choice nodes state policy answer log ↔
      locate nodes state policy = answer ∧ choiceLog nodes state answer = log := by
  constructor
  · exact Choice.locate_eq
  · -- some choice there is, and it comes to this answer
    rintro ⟨rfl, rfl⟩
    obtain ⟨answer, log, hChoice⟩ := exists_choice nodes state policy
    obtain ⟨rfl, rfl⟩ := hChoice.locate_eq
    exact hChoice

/-! ## The choice in a run -/

theorem source_phaseRecord (phase next : Phase) :
    (Run.phaseRecord phase next).source = .orchestrator := by
  unfold Run.phaseRecord
  split <;> rfl

/-- A run is answered as the search is, and writes the records of the choice before its own. -/
theorem settle_log (nodes : List Node) (state : ClusterState) (policy : FallbackPolicy)
    (p : Progress σ) :
    ((settle nodes state policy).run p).1 = locate nodes state policy ∧
      ∃ after, (∀ record ∈ after, record.source = .orchestrator) ∧
        ((settle nodes state policy).run p).2.log =
          p.log ++ choiceLog nodes state (locate nodes state policy) ++ after := by
  simp only [settle, Run.run_bind, Run.run_lift, Run.run_write, Run.run_update, Run.run_modify,
    Run.run_pure]
  cases locate nodes state policy with
  | error e =>
    refine ⟨rfl, [], ?_, ?_⟩
    · exact List.forall_mem_nil _
    · simp [choiceLog]
  | ok located =>
    refine ⟨rfl, [Run.phaseRecord p.report.phase .located,
      Run.phaseRecord (p.report.phase.advance .located) .assigning], ?_, ?_⟩
    · simp [source_phaseRecord]
    · simp [choiceLog, Run.enter]

/-! ## What the choice depends on -/

/-- The same place of a list is chosen in the same way, whatever server stands there. -/
structure Located.SamePlace (located other : Located) : Prop where
  index : other.index = located.index
  selection : other.selection = located.selection

/-- A first match is told by the uris. -/
theorem FirstMatch.of_uris {index : Nat} {node : Node} (h : FirstMatch nodes state index node)
    (hUris : others.map Node.uri = nodes.map Node.uri) (hSelf : other.selfUri = state.selfUri) :
    ∃ otherNode, FirstMatch others other index otherNode := by
  have hPlace (j : Nat) : others[j]?.map Node.uri = nodes[j]?.map Node.uri := by
    rw [← List.getElem?_map, hUris, List.getElem?_map]
  -- at every place of the two lists there is the same uri
  have hGet := hPlace index
  rw [h.get] at hGet
  obtain ⟨otherNode, hOther, hUri⟩ := Option.map_eq_some_iff.mp hGet
  refine ⟨otherNode, hOther, ?_, fun j hj earlier hEarlier => ?_⟩
  · rw [hUri, h.uri, hSelf]
  · have hSame := hPlace j
    rw [hEarlier] at hSame
    obtain ⟨before, hBefore, hBeforeUri⟩ := Option.map_eq_some_iff.mp hSame.symm
    rw [← hBeforeUri, hSelf]
    exact h.first j hj before hBefore

theorem forall_uri_ne_of_uris (hNone : ∀ node ∈ nodes, node.uri ≠ state.selfUri)
    (hUris : others.map Node.uri = nodes.map Node.uri) (hSelf : other.selfUri = state.selfUri) :
    ∀ node ∈ others, node.uri ≠ other.selfUri := by
  intro node hMem hUri
  have hUriMem : node.uri ∈ nodes.map Node.uri := hUris ▸ List.mem_map_of_mem hMem
  obtain ⟨same, hSame, hSameUri⟩ := List.mem_map.mp hUriMem
  exact hNone same hSame (hSameUri.trans (hUri.trans hSelf))

/-- Lists with the same uris are searched alike, and the same is written about it. -/
theorem agree_locate_of_uris (hUris : others.map Node.uri = nodes.map Node.uri)
    (hSelf : other.selfUri = state.selfUri) (policy : FallbackPolicy) :
    Agree Located.SamePlace (locate nodes state policy) (locate others other policy) ∧
      choiceLog others other (locate others other policy) =
        choiceLog nodes state (locate nodes state policy) := by
  rcases exists_firstMatch_or_forall_ne nodes state with ⟨index, node, hMatch⟩ | hNone
  · obtain ⟨otherNode, hOther⟩ := hMatch.of_uris hUris hSelf
    rw [hMatch.locate_eq, hOther.locate_eq]
    exact ⟨.ok ⟨rfl, rfl⟩, rfl⟩
  · have hOtherNone := forall_uri_ne_of_uris hNone hUris hSelf
    have hLength : others.length = nodes.length := by
      simpa using congrArg List.length hUris
    cases nodes with
    | nil =>
      obtain rfl : others = [] := List.length_eq_zero_iff.mp hLength
      exact ⟨.error .noServers, rfl⟩
    | cons first rest =>
      obtain ⟨otherFirst, otherRest, rfl⟩ := List.exists_cons_of_length_eq_add_one hLength
      obtain ⟨hLenient, hStrict⟩ := locate_cons_of_forall_ne hNone
      obtain ⟨hOtherLenient, hOtherStrict⟩ := locate_cons_of_forall_ne hOtherNone
      have hFirst : otherFirst.uri = first.uri := (List.cons.inj hUris).1
      cases policy with
      | firstNode =>
        rw [hLenient, hOtherLenient]
        refine ⟨.ok ⟨rfl, rfl⟩, ?_⟩
        simp only [choiceLog, Located.log, hSelf, hLength, hFirst]
      | fail =>
        rw [hStrict, hOtherStrict, hUris, hSelf]
        exact ⟨.error _, rfl⟩

/-- A search ends in one of the four ways, and the run writes the records of that way only.  Whatever else
nodes and states hold, with the same uris it ends in the same way, at the same place of the list. -/
theorem locate_choice (nodes : List Node) (state : ClusterState) (policy : FallbackPolicy) :
    (∀ answer log, Choice nodes state policy answer log ↔
      locate nodes state policy = answer ∧ choiceLog nodes state answer = log) ∧
    (∀ {σ : Type} (p : Progress σ),
      ((settle nodes state policy).run p).1 = locate nodes state policy ∧
        ∃ after, (∀ record ∈ after, record.source = .orchestrator) ∧
          ((settle nodes state policy).run p).2.log =
            p.log ++ choiceLog nodes state (locate nodes state policy) ++ after) ∧
    ∀ (others : List Node) (other : ClusterState), others.map Node.uri = nodes.map Node.uri →
      other.selfUri = state.selfUri →
        Agree Located.SamePlace (locate nodes state policy) (locate others other policy) ∧
          choiceLog others other (locate others other policy) =
            choiceLog nodes state (locate nodes state policy) := by
  refine ⟨fun answer log => choice_iff, fun p => settle_log nodes state policy p, ?_⟩
  intro others other hUris hSelf
  exact agree_locate_of_uris hUris hSelf policy

/-- Of three servers two have the endpoint's own uri, and the first of them is chosen, whatever else is told
of the three and of the cluster. -/
theorem locate_repeated_uri :
    let state : ClusterState :=
      { selfUri := "b:2", selfUuid := "", failover := .disabled, knownRoles := .empty
        canBootstrapVshard := false, vshardBucketCount := 0 }
    let other : ClusterState :=
      { state with selfUuid := "u", knownRoles := .ofList ["key-value"] }
    let nodes : List Node := [.ofUri "", .ofUri "b:2", .ofUri "b:2"]
    let others : List Node :=
      [.ofUri "", (Node.ofUri "b:2").withStatus "dead", (Node.ofUri "b:2").withAlias "b"]
    others.map Node.uri = nodes.map Node.uri ∧ other.selfUri = state.selfUri ∧
      locate nodes state .fail =
        .ok { index := 1, node := .ofUri "b:2", selection := .selfMatch } ∧
      Agree Located.SamePlace (locate nodes state .fail) (locate others other .fail) := by
  intro state other nodes others
  have hUris : others.map Node.uri = nodes.map Node.uri := rfl
  have hSelf : other.selfUri = state.selfUri := rfl
  obtain ⟨-, -, hSame⟩ := locate_choice nodes state .fail
  exact ⟨hUris, hSelf, rfl, (hSame others other hUris hSelf).1⟩

end ClusterBootstrap
