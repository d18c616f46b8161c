import ClusterBootstrap.Run.Locate

/-!
# Which node is located

A list either has a first server with the endpoint's own uri, or no such server at all.  In the first
case that server is located under every policy, and in the second the policy decides.
-/

namespace ClusterBootstrap

variable {nodes : List Node} {state : ClusterState} {policy : FallbackPolicy}

/-- Searching a list with its places finds the first place whose entry has the property. -/
theorem find?_zipIdx_eq_some_iff {α : Type} {p : α → Bool} {xs : List α} {a : α} {i : Nat} :
    (xs.zipIdx.find? fun entry => p entry.1) = some (a, i) ↔
      xs[i]? = some a ∧ p a = true ∧ ∀ j < i, ∀ b, xs[j]? = some b → p b = false := by
  simp only [List.find?_eq_some_iff_getElem, List.getElem_zipIdx, Prod.mk.injEq, Nat.zero_add,
    List.length_zipIdx, Bool.not_eq_true']
  constructor
  · -- the place that is found is the index of its entry
    rintro ⟨hp, k, hk, ⟨hGet, rfl⟩, hBefore⟩
    refine ⟨List.getElem?_eq_some_iff.mpr ⟨hk, hGet⟩, hp, fun j hj b hb => ?_⟩
    obtain ⟨hLt, rfl⟩ := List.getElem?_eq_some_iff.mp hb
    exact hBefore j hj
  · rintro ⟨hGet, hp, hBefore⟩
    obtain ⟨hi, hEq⟩ := List.getElem?_eq_some_iff.mp hGet
    refine ⟨hp, i, hi, ⟨hEq, rfl⟩, fun j hj => ?_⟩
    exact hBefore j hj _ (List.getElem?_eq_getElem (Nat.lt_trans hj hi))

/-- The first server of a list with the endpoint's own uri, and its place. -/
structure FirstMatch (nodes : List Node) (state : ClusterState) (index : Nat) (node : Node) :
    Prop where
  get : nodes[index]? = some node
  uri : node.uri = state.selfUri
  first : ∀ j < index, ∀ other, nodes[j]? = some other → other.uri ≠ state.selfUri

theorem FirstMatch.mem {index : Nat} {node : Node} (h : FirstMatch nodes state index node) :
    node ∈ nodes :=
  List.mem_of_getElem? h.get

/-- The first match is located, whatever the policy. -/
theorem FirstMatch.locate_eq {index : Nat} {node : Node} (h : FirstMatch nodes state index node) :
    locate nodes state policy = .ok { index, node, selection := .selfMatch } := by
  have hFind := find?_zipIdx_eq_some_iff
    (p := fun node => decide (node.uri = state.selfUri)) |>.mpr
      ⟨h.get, decide_eq_true h.uri, fun j hj b hb => decide_eq_false (h.first j hj b hb)⟩
  simp only [locate, hFind]

theorem locate_nil : locate [] state policy = .error .noServers := rfl

/-- Without a match the policy decides, unless the list is empty. -/
theorem locate_cons_of_forall_ne {first : Node} {rest : List Node}
    (hNone : ∀ node ∈ first :: rest, node.uri ≠ state.selfUri) :
    locate (first :: rest) state .firstNode =
        .ok { index := 0, node := first, selection := .fallback } ∧
      locate (first :: rest) state .fail =
        .error (.selfNotListed state.selfUri ((first :: rest).map Node.uri)) := by
  have hFind : (first :: rest).zipIdx.find? (fun entry => decide (entry.1.uri = state.selfUri)) =
      none := by
    rw [List.find?_eq_none]
    rintro ⟨node, index⟩ hMem
    simpa using hNone node (List.fst_mem_of_mem_zipIdx hMem)
  simp only [locate, hFind, and_self]

/-- A list has a first match or none. -/
theorem exists_firstMatch_or_forall_ne (nodes : List Node) (state : ClusterState) :
    (∃ index node, FirstMatch nodes state index node) ∨
      ∀ node ∈ nodes, node.uri ≠ state.selfUri := by
  cases hFind : nodes.zipIdx.find? fun entry => decide (entry.1.uri = state.selfUri) with
  | some entry =>
    obtain ⟨node, index⟩ := entry
    obtain ⟨hGet, hUri, hFirst⟩ := find?_zipIdx_eq_some_iff
      (p := fun node : Node => decide (node.uri = state.selfUri)) |>.mp hFind
    refine .inl ⟨index, node, hGet, of_decide_eq_true hUri, fun j hj other hOther => ?_⟩
    exact of_decide_eq_false (hFirst j hj other hOther)
  | none =>
    -- a node of the list stands at some place, and no place was found
    refine .inr fun node hMem => ?_
    obtain ⟨index, hGet⟩ := List.mem_iff_getElem?.mp hMem
    have hEntry : (node, index) ∈ nodes.zipIdx := List.mk_mem_zipIdx_iff_getElem?.mpr hGet
    simpa using List.find?_eq_none.mp hFind _ hEntry

/-- What a located node says about the list, the state and the policy. -/
theorem locate_eq_ok_iff {located : Located} :
    locate nodes state policy = .ok located ↔
      (located.selection = .selfMatch ∧ FirstMatch nodes state located.index located.node) ∨
        (located.selection = .fallback ∧ located.index = 0 ∧
          nodes.head? = some located.node ∧
          (∀ node ∈ nodes, node.uri ≠ state.selfUri) ∧ policy = .firstNode) := by
  rcases exists_firstMatch_or_forall_ne nodes state with ⟨index, node, hMatch⟩ | hNone
  · rw [hMatch.locate_eq]
    constructor
    · rintro ⟨⟩
      exact .inl ⟨rfl, hMatch⟩
    · -- two first matches are located alike, and a fallback would have none
      rintro (⟨hSelection, hLocated⟩ | ⟨-, -, -, hNone, -⟩)
      · have hFirst : locate nodes state policy = _ := hMatch.locate_eq
        obtain ⟨i, n, s⟩ := located
        cases hFirst.symm.trans hLocated.locate_eq
        cases hSelection
        rfl
      · exact absurd hMatch.uri (hNone node hMatch.mem)
  · cases nodes with
    | nil =>
      rw [locate_nil]
      constructor
      · rintro ⟨⟩
      · rintro (⟨-, hMatch⟩ | ⟨-, -, hHead, -⟩)
        · cases hMatch.mem
        · cases hHead
    | cons first rest =>
      obtain ⟨hLenient, hStrict⟩ := locate_cons_of_forall_ne hNone
      have hNoMatch : ¬ FirstMatch (first :: rest) state located.index located.node :=
        fun hMatch => hNone _ hMatch.mem hMatch.uri
      cases policy with
      | firstNode =>
        rw [hLenient]
        constructor
        · rintro ⟨⟩
          exact .inr ⟨rfl, rfl, rfl, hNone, rfl⟩
        · rintro (⟨-, hMatch⟩ | ⟨hSelection, hIndex, hHead, -, -⟩)
          · exact absurd hMatch hNoMatch
          · obtain ⟨i, n, s⟩ := located
            cases hSelection
            cases hIndex
            cases hHead
            rfl
      | fail =>
        rw [hStrict]
        constructor
        · rintro ⟨⟩
        · rintro (⟨-, hMatch⟩ | ⟨-, -, -, -, hPolicy⟩)
          · exact absurd hMatch hNoMatch
          · cases hPolicy

/-- A node can be located exactly where there are servers, and one of them matches or the policy takes
the first. -/
theorem exists_locate_iff :
    (∃ located, locate nodes state policy = .ok located) ↔
      nodes ≠ [] ∧ ((∃ node ∈ nodes, node.uri = state.selfUri) ∨ policy = .firstNode) := by
  constructor
  · rintro ⟨located, hLocated⟩
    rcases locate_eq_ok_iff.mp hLocated with ⟨-, hMatch⟩ | ⟨-, -, hHead, -, hPolicy⟩
    · exact ⟨List.ne_nil_of_mem hMatch.mem, .inl ⟨_, hMatch.mem, hMatch.uri⟩⟩
    · exact ⟨List.ne_nil_of_mem (List.mem_of_head? hHead), .inr hPolicy⟩
  · rintro ⟨hNonempty, hChoice⟩
    -- a match settles it under either policy
    rcases exists_firstMatch_or_forall_ne nodes state with ⟨index, node, hMatch⟩ | hNone
    · exact ⟨_, hMatch.locate_eq⟩
    · rcases hChoice with ⟨node, hMem, hUri⟩ | rfl
      · exact absurd hUri (hNone node hMem)
      · obtain ⟨first, rest, rfl⟩ := List.exists_cons_of_ne_nil hNonempty
        exact ⟨_, (locate_cons_of_forall_ne hNone).1⟩

/-! ## What the choice tells -/

/-- A node was chosen from the servers of a cluster, in the way that the selection says. -/
structure Justified (policy : FallbackPolicy) (servers : List Node) (state : ClusterState)
    (node : Node) (selection : Selection) : Prop where
  nonempty : servers ≠ []
  mem : node ∈ servers
  selfMatch : selection = .selfMatch ↔ node.uri = state.selfUri
  fallback : selection = .fallback ↔
    (∀ server ∈ servers, server.uri ≠ state.selfUri) ∧ servers.head? = some node ∧
      policy = .firstNode

theorem mem_of_locate {located : Located} (h : locate nodes state policy = .ok located) :
    located.node ∈ nodes := by
  rcases locate_eq_ok_iff.mp h with ⟨-, hMatch⟩ | ⟨-, -, hHead, -⟩
  · exact hMatch.mem
  · exact List.mem_of_head? hHead

/-- A node is located as the endpoint's own exactly when its uri says so. -/
theorem selfMatch_iff_of_locate {located : Located}
    (h : locate nodes state policy = .ok located) :
    located.selection = .selfMatch ↔ located.node.uri = state.selfUri := by
  rcases locate_eq_ok_iff.mp h with ⟨hSelection, hMatch⟩ | ⟨hSelection, -, -, hNone, -⟩
  · exact iff_of_true hSelection hMatch.uri
  · have hUri := hNone _ (mem_of_locate h)
    exact iff_of_false (by simp [hSelection]) hUri

/-- A fallback is the first server, taken where no server matches and the policy allows it. -/
theorem fallback_iff_of_locate {located : Located}
    (h : locate nodes state policy = .ok located) :
    located.selection = .fallback ↔
      (∀ node ∈ nodes, node.uri ≠ state.selfUri) ∧ nodes.head? = some located.node ∧
        policy = .firstNode := by
  rcases locate_eq_ok_iff.mp h with
    ⟨hSelection, hMatch⟩ | ⟨hSelection, -, hHead, hNone, hPolicy⟩
  · refine iff_of_false (by simp [hSelection]) ?_
    rintro ⟨hNone, -, -⟩
    exact hNone _ hMatch.mem hMatch.uri
  · exact iff_of_true hSelection ⟨hNone, hHead, hPolicy⟩

theorem justified_of_locate {located : Located}
    (h : locate nodes state policy = .ok located) :
    Justified policy nodes state located.node located.selection where
  nonempty := List.ne_nil_of_mem (mem_of_locate h)
  mem := mem_of_locate h
  selfMatch := selfMatch_iff_of_locate h
  fallback := fallback_iff_of_locate h

end ClusterBootstrap
