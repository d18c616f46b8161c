import ClusterBootstrap.Proofs.Run.Attainable
import ClusterBootstrap.Proofs.Run.Policy

/-!
# To whom a strict run assigns

A strict run sends its assignment only to a server that has the uri of the endpoint.  An endpoint that tells
no uri counts as one with the empty uri, and so a server that is listed with the empty uri is taken for it.
Where all listed servers have names, only what the endpoint tells of itself leads to an assignment.
-/

namespace ClusterBootstrap

open Net

/-! ## Requests for an assignment -/

/-- The body of a request is a document with the text of an assignment, whatever else it holds. -/
def Net.Request.Mutates (request : Request) : Prop :=
  ∃ document, Json.parse request.body = .ok document ∧
    document.get? "query" = some (.string Wire.Operation.assignRole.query)

/-- It is such a document, and its variables name the server with this uri. -/
def Net.Request.AssignsTo (request : Request) (uri : String) : Prop :=
  ∃ document arguments, Json.parse request.body = .ok document ∧
    document.get? "query" = some (.string Wire.Operation.assignRole.query) ∧
    document.get? "variables" = some arguments ∧ arguments.get? "uri" = some (.string uri)

variable {client : Client} {sent : Request}

theorem Net.Request.AssignsTo.mutates {uri : String} (h : sent.AssignsTo uri) : sent.Mutates := by
  obtain ⟨document, _, hParse, hQuery, -⟩ := h
  exact ⟨document, hParse, hQuery⟩

theorem parse_queryDocument (operation : Wire.Operation) :
    Json.parse (Wire.queryDocument operation).compact = .ok (Wire.queryDocument operation) := by
  have hReadable : Json.Readable Json.depthLimit (Wire.queryDocument operation) :=
    .object (List.forall_mem_singleton.mpr (.string _))
  exact Json.parse_compact hReadable

/-- A document that only queries asks for no assignment. -/
theorem not_mutates_of_query {operation : Wire.Operation}
    (hBody : sent.body = (Wire.queryDocument operation).compact)
    (hOther : operation.query ≠ Wire.Operation.assignRole.query) : ¬ sent.Mutates := by
  rintro ⟨document, hParse, hQuery⟩
  rw [hBody, parse_queryDocument] at hParse
  cases hParse
  -- the document has its own text there, which is another one
  exact hOther (Json.string.inj (Option.some.inj hQuery))

/-- The document of an assignment names the node that it is made for. -/
theorem assignsTo_of_body (request : AssignmentRequest)
    (hBody : sent.body = Wire.assignmentBody request) : sent.AssignsTo request.node.uri := by
  have hParse := Wire.parse_eq_sortedArguments request
  rw [← hBody] at hParse
  exact ⟨_, _, hParse, rfl, rfl, rfl⟩

theorem Net.Request.AssignsTo.unique {uri other : String} (h : sent.AssignsTo uri)
    (hOther : sent.AssignsTo other) : uri = other := by
  obtain ⟨document, _, hParse, -, hArguments, hUri⟩ := h
  obtain ⟨document', _, hParse', -, hArguments', hUri'⟩ := hOther
  cases hParse.symm.trans hParse'
  cases hArguments.symm.trans hArguments'
  cases hUri.symm.trans hUri'
  rfl

/-- What is sent for a call has the body of the call. -/
theorem body_of_mem_requestsOf {call : Call} (hMem : sent ∈ client.requestsOf call) :
    sent.body = (Client.bodyOf call).getD "" := by
  unfold Client.requestsOf at hMem
  split at hMem
  · cases hMem
  · split at hMem
    · obtain rfl := List.mem_singleton.mp hMem
      cases call <;> rfl
    · cases hMem

/-- Of all calls, only the assignment asks for one. -/
theorem exists_assign_of_mutates {call : Call} (hMem : sent ∈ client.requestsOf call)
    (hMutates : sent.Mutates) : ∃ request, call = .assign request := by
  have hBody := body_of_mem_requestsOf hMem
  cases call with
  | probe =>
    -- the probe has no body, and no document is empty
    obtain ⟨document, hParse, -⟩ := hMutates
    have hEmpty : (Json.parse sent.body).toOption.isNone = true := by
      rw [hBody]
      decide +kernel
    rw [hParse] at hEmpty
    cases hEmpty
  | servers => exact absurd hMutates (not_mutates_of_query hBody (by decide))
  | clusterState => exact absurd hMutates (not_mutates_of_query hBody (by decide))
  | assign request => exact ⟨request, rfl⟩

theorem exists_mem_requestsOf (call : Call) (hUsable : Url.Usable (client.addressOf call)) :
    ∃ sent, sent ∈ client.requestsOf call := by
  obtain ⟨url, hParse, hSendable⟩ := hUsable
  refine ⟨client.requestTo url (Client.bodyOf call), ?_⟩
  simp [Client.requestsOf, hParse, hSendable]

/-! ## Runs that assign -/

/-- Among the requests that a run over the network sends is one like this. -/
def Sends (settings : BootstrapSettings) (replies : List Reply) (Like : Request → Prop) : Prop :=
  ∃ progress, connect settings (.ofReplies replies) = .ok progress ∧
    ∃ sent ∈ progress.plane.requests, Like sent

variable {settings : BootstrapSettings} {replies : List Reply} {uri : String}

/-- What a run sends, it sends for its calls. -/
theorem sends_iff {Like : Request → Prop} :
    Sends settings replies Like ↔
      settings.validate = .ok () ∧ ∃ client, Client.ofSettings settings.client = .ok client ∧
        ∃ call ∈ (bootstrap client.plane settings (.ofReplies replies)).calls,
          ∃ sent ∈ client.requestsOf call, Like sent := by
  -- the peer starts with no requests, and each call adds its own
  have hRequests (client : Client) :
      (bootstrap client.plane settings (.ofReplies replies)).plane.requests =
        (bootstrap client.plane settings (.ofReplies replies)).calls.flatMap client.requestsOf :=
    requests_bootstrap client settings rfl
  constructor
  · rintro ⟨progress, hRun, sent, hSent, hLike⟩
    obtain ⟨client, hValid, hClient, -, hPlane⟩ := exists_client_of_connect hRun
    rw [hPlane, hRequests] at hSent
    obtain ⟨call, hCall, hMem⟩ := List.mem_flatMap.mp hSent
    exact ⟨hValid, client, hClient, call, hCall, sent, hMem, hLike⟩
  · rintro ⟨hValid, client, hClient, call, hCall, sent, hMem, hLike⟩
    refine ⟨_, connect_eq hValid hClient, sent, ?_, hLike⟩
    dsimp only
    rw [hRequests]
    exact List.mem_flatMap.mpr ⟨call, hCall, hMem⟩

/-- A run asks for an assignment to the nodes that it has located, where one is due, and to no others. -/
theorem sends_assignsTo_iff :
    Sends settings replies (·.AssignsTo uri) ↔
      ∃ client nodes state located request, Client.ofSettings settings.client = .ok client ∧
        Requested client.plane settings (.ofReplies replies) nodes state located request ∧
        located.node.uri = uri := by
  rw [sends_iff]
  constructor
  · rintro ⟨hValid, client, hClient, call, hCall, sent, hMem, hAssigns⟩
    -- the request is for a call that assigns, and such a call is made only if it is due
    obtain ⟨request, rfl⟩ := exists_assign_of_mutates hMem hAssigns.mutates
    obtain ⟨nodes, state, located, hRequested⟩ := assign_mem_calls_iff.mp hCall
    have hNode := assignsTo_of_body request (body_of_mem_requestsOf hMem)
    rw [hRequested.node] at hNode
    exact ⟨client, nodes, state, located, request, hClient, hRequested, hNode.unique hAssigns⟩
  · rintro ⟨client, nodes, state, located, request, hClient, hRequested, rfl⟩
    have hCall := assign_mem_calls_iff.mpr ⟨nodes, state, located, hRequested⟩
    obtain ⟨sent, hMem⟩ := exists_mem_requestsOf (.assign request) hRequested.toListed.usable.2
    have hNode := assignsTo_of_body request (body_of_mem_requestsOf hMem)
    rw [hRequested.node] at hNode
    exact ⟨hRequested.valid, client, hClient, _, hCall, sent, hMem, hNode⟩

/-- Whatever asks for an assignment names a server. -/
theorem not_sends_nameless :
    ¬ Sends settings replies fun sent => sent.Mutates ∧ ∀ uri, ¬ sent.AssignsTo uri := by
  rw [sends_iff]
  rintro ⟨-, client, -, call, -, sent, hMem, hMutates, hNone⟩
  obtain ⟨request, rfl⟩ := exists_assign_of_mutates hMem hMutates
  exact hNone _ (assignsTo_of_body request (body_of_mem_requestsOf hMem))

theorem exists_sends_assignsTo (hSends : Sends settings replies Request.Mutates) :
    ∃ uri, Sends settings replies (·.AssignsTo uri) := by
  obtain ⟨progress, hRun, sent, hSent, hMutates⟩ := hSends
  by_contra hNone
  refine not_sends_nameless ⟨progress, hRun, sent, hSent, hMutates, fun uri hAssigns => ?_⟩
  exact hNone ⟨uri, progress, hRun, sent, hSent, hAssigns⟩

/-! ## Grounds of a strict assignment -/

/-- The second reply lists these servers. -/
def Lists (replies : List Reply) (nodes : List Node) : Prop :=
  ∃ envelope, Carries replies 1 envelope ∧ Wire.decodeServers envelope = .ok nodes

/-- The third reply tells of this cluster. -/
def TellsOf (replies : List Reply) (cluster : Json) : Prop :=
  ∃ envelope, Carries replies 2 envelope ∧ Wire.ToldCluster envelope cluster

/-- What a strict assignment to the server with this uri is due to. -/
structure Grounds (settings : BootstrapSettings) (replies : List Reply) (cluster : Json)
    (uri : String) : Prop where
  connectable : Connectable settings
  probe : Succeeds replies 0
  listed : ∃ nodes, Lists replies nodes ∧ ∃ node ∈ nodes, node.uri = uri
  told : TellsOf replies cluster
  roles : ∃ state, Wire.ClusterForm cluster state ∧
    ∀ role ∈ settings.roles, role ∈ state.knownRoles.names
  /-- An endpoint that tells no uri counts as one that tells the empty uri. -/
  self : Wire.TellsSelf cluster uri ∨ (Wire.HidesSelf cluster ∧ uri = "")

theorem carries_unique {n : Nat} {envelope other : Json} (h : Carries replies n envelope)
    (hOther : Carries replies n other) : envelope = other := by
  obtain ⟨_, _, hReply, hParse⟩ := h
  obtain ⟨_, _, hReply', hParse'⟩ := hOther
  cases hReply.symm.trans hReply'
  exact Except.ok.inj (hParse.symm.trans hParse')

/-- The third reply tells of at most one cluster. -/
theorem TellsOf.unique {cluster other : Json} (h : TellsOf replies cluster)
    (hOther : TellsOf replies other) : cluster = other := by
  obtain ⟨envelope, hCarries, hTold⟩ := h
  obtain ⟨envelope', hCarries', hTold'⟩ := hOther
  obtain rfl := carries_unique hCarries hCarries'
  exact hTold.unique hTold'

/-- The strict policy locates only a server that has the endpoint's own uri. -/
theorem exists_locate_fail_iff {nodes : List Node} {state : ClusterState} :
    (∃ located, locate nodes state .fail = .ok located ∧ located.node.uri = uri) ↔
      (∃ node ∈ nodes, node.uri = uri) ∧ state.selfUri = uri := by
  constructor
  · rintro ⟨located, hLocated, rfl⟩
    rcases locate_eq_ok_iff.mp hLocated with ⟨-, hMatch⟩ | ⟨-, -, -, -, hPolicy⟩
    · exact ⟨⟨_, hMatch.mem, rfl⟩, hMatch.uri.symm⟩
    · cases hPolicy
  · rintro ⟨⟨node, hMem, hUri⟩, rfl⟩
    rcases exists_firstMatch_or_forall_ne nodes state with ⟨index, first, hMatch⟩ | hNone
    · exact ⟨_, hMatch.locate_eq, hMatch.uri⟩
    · exact absurd hUri (hNone node hMem)

/-- The assignment of a strict run is due exactly where there are grounds for it. -/
theorem sends_strict_iff (hStrict : settings.fallback = .fail) :
    Sends settings replies (·.AssignsTo uri) ↔ ∃ cluster, Grounds settings replies cluster uri := by
  rw [sends_assignsTo_iff]
  constructor
  · rintro ⟨client, nodes, state, located, request, hClient, hRequested, hUri⟩
    have hConnectable := hRequested.toListed.connectable hClient
    have hAnswered := hConnectable.answered hClient replies
    have hLocated := hRequested.location
    rw [hStrict] at hLocated
    obtain ⟨hListed, hSelf⟩ := exists_locate_fail_iff.mp ⟨located, hLocated, hUri⟩
    obtain ⟨envelope, hCarries, hDecoded⟩ := (hAnswered.observed state).mp hRequested.clusterState
    obtain ⟨cluster, hTold, hForm⟩ := Wire.decodeClusterState_eq_ok_iff.mp hDecoded
    exact
      ⟨cluster, {
        connectable := hConnectable
        probe := hAnswered.probed.mp hRequested.probe
        listed := ⟨nodes, (hAnswered.listed nodes).mp hRequested.servers, hListed⟩
        told := ⟨envelope, hCarries, hTold⟩
        roles := ⟨state, hForm, fun role hMem => knowsRole_iff.mp (hRequested.known role hMem)⟩
        self := hForm.selfUri_eq_iff.mp hSelf }⟩
  · rintro ⟨cluster, hGrounds⟩
    -- the replies answer the queries, and the state that is read has the uri that they list
    obtain ⟨client, hClient⟩ := hGrounds.connectable.client
    have hAnswered := hGrounds.connectable.answered hClient replies
    obtain ⟨nodes, hLists, hListed⟩ := hGrounds.listed
    obtain ⟨envelope, hCarries, hTold⟩ := hGrounds.told
    obtain ⟨state, hForm, hKnown⟩ := hGrounds.roles
    have hDecoded := Wire.decodeClusterState_eq_ok_iff.mpr ⟨cluster, hTold, hForm⟩
    have hSelf := hForm.selfUri_eq_iff.mpr hGrounds.self
    obtain ⟨located, hLocated, hUri⟩ := exists_locate_fail_iff.mpr ⟨hListed, hSelf⟩
    have hRoles := BootstrapSettings.roles_ne_nil hGrounds.connectable.valid
    refine ⟨client, nodes, state, located, ⟨located.node, settings.roles, hRoles⟩, hClient, ?_, hUri⟩
    exact
      { valid := hGrounds.connectable.valid
        probe := hAnswered.probed.mpr hGrounds.probe
        servers := (hAnswered.listed nodes).mpr hLists
        clusterState := (hAnswered.observed state).mpr ⟨envelope, hCarries, hDecoded⟩
        location := hStrict ▸ hLocated
        known := fun role hMem => knowsRole_iff.mpr (hKnown role hMem)
        node := rfl
        roles := rfl }

/-- Every server that is listed has a name. -/
def AllNamed (replies : List Reply) : Prop :=
  ∀ nodes, Lists replies nodes → ∀ node ∈ nodes, node.uri ≠ ""

/-- Where every server has a name, the endpoint has told the uri that a strict run assigns to. -/
theorem Grounds.tellsSelf {cluster : Json} (h : Grounds settings replies cluster uri)
    (hNamed : AllNamed replies) : Wire.TellsSelf cluster uri := by
  rcases h.self with hTells | ⟨-, rfl⟩
  · exact hTells
  · -- otherwise a server with the empty uri is listed
    obtain ⟨nodes, hLists, node, hMem, hUri⟩ := h.listed
    exact absurd hUri (hNamed nodes hLists node hMem)

/-- A strict run assigns to a server exactly where it is listed, the roles are known, and the cluster tells
its uri as that of the endpoint, or tells no such uri and that of the server is empty.  Where every server
has a name, the last does not happen: the endpoint then has told the uri, and where it has told none,
nothing that changes the cluster is sent. -/
theorem strict_assignment_iff (settings : BootstrapSettings) (replies : List Reply) :
    let strict := settings.under .fail
    (∀ uri, Sends strict replies (·.AssignsTo uri) ↔
      ∃ cluster, Grounds strict replies cluster uri) ∧
    (¬ Sends strict replies fun sent => sent.Mutates ∧ ∀ uri, ¬ sent.AssignsTo uri) ∧
    (AllNamed replies →
      (∀ uri, Sends strict replies (·.AssignsTo uri) →
        ∃ cluster, TellsOf replies cluster ∧ Wire.TellsSelf cluster uri) ∧
      ∀ cluster, TellsOf replies cluster → Wire.HidesSelf cluster →
        ¬ Sends strict replies Request.Mutates) := by
  intro strict
  have hGrounds (uri : String) : Sends strict replies (·.AssignsTo uri) ↔
      ∃ cluster, Grounds strict replies cluster uri :=
    sends_strict_iff rfl
  refine ⟨hGrounds, not_sends_nameless, fun hNamed => ⟨fun uri hSends => ?_, ?_⟩⟩
  · obtain ⟨cluster, h⟩ := (hGrounds uri).mp hSends
    exact ⟨cluster, h.told, h.tellsSelf hNamed⟩
  · intro cluster hTold hHides hMutates
    obtain ⟨uri, hSends⟩ := exists_sends_assignsTo hMutates
    obtain ⟨other, h⟩ := (hGrounds uri).mp hSends
    -- there is only one cluster that the reply tells of
    obtain rfl := hTold.unique h.told
    exact (h.tellsSelf hNamed).not_hidesSelf hHides

/-! ## An endpoint without a name -/

/-- A cluster that tells one role and nothing about the endpoint. -/
def silentCluster : Json := .object [("known_roles", .strings ["key-value"])]

/-- An answer that tells of this cluster. -/
def silence : Json := .object [("data", .object [("cluster", silentCluster)])]

/-- An answer that lists one server, with the empty uri. -/
def namelessListing : Json := Wire.listing (.object [("uri", .string "")])

/-- The replies to the default settings, but that the only server is nameless, and so is the endpoint. -/
def namelessReplies : List Reply :=
  (plainReplies.set 1 (.answered .ok (Json.bytesOf namelessListing.compact) .whole)).set 2
    (.answered .ok (Json.bytesOf silence.compact) .whole)

theorem lists_namelessReplies : Lists namelessReplies [.ofUri ""] := by
  have hServer : Json.Readable 124 (.object [("uri", .string "")]) :=
    .object (List.forall_mem_singleton.mpr (.string ""))
  have hList : Json.Readable 126 (.object [("serverList", .array [.object [("uri", .string "")]])]) :=
    .object (List.forall_mem_singleton.mpr (.array (List.forall_mem_singleton.mpr hServer)))
  have hReadable : Json.Readable Json.depthLimit namelessListing :=
    .object (List.forall_mem_singleton.mpr hList)
  refine ⟨namelessListing, carries_compact rfl hReadable rfl, Wire.decodeServers_listing ?_⟩
  exact ⟨_, .object, rfl, .absent, .absent, .absent, .absent, ⟨none, .absent, rfl⟩⟩

theorem tellsOf_namelessReplies : TellsOf namelessReplies silentCluster := by
  have hCluster : Json.Readable 125 silentCluster :=
    .object (List.forall_mem_singleton.mpr (Wire.readable_strings 123 ["key-value"]))
  have hData : Json.Readable 126 (.object [("cluster", silentCluster)]) :=
    .object (List.forall_mem_singleton.mpr hCluster)
  have hReadable : Json.Readable Json.depthLimit silence :=
    .object (List.forall_mem_singleton.mpr hData)
  exact ⟨silence, carries_compact rfl hReadable rfl, _, ⟨_, rfl, rfl, by simp⟩, .member rfl⟩

theorem hidesSelf_silentCluster : Wire.HidesSelf silentCluster :=
  ⟨_, .object, .inl (.inl rfl)⟩

/-- It has the state of a cluster in which the endpoint has the empty uri. -/
theorem clusterForm_silentCluster :
    Wire.ClusterForm silentCluster (stateKnowing "" ["key-value"]) := by
  refine ⟨_, .object, ?_⟩
  constructor
  case self => exact ⟨none, .absent, rfl, rfl⟩
  case failover => exact ⟨none, .absent, rfl⟩
  case knownRoles => exact .present ⟨["key-value"], rfl, fun _ => RoleSet.mem_names_ofList⟩
  case canBootstrapVshard => exact .absent
  case vshardBucketCount => exact .absent

theorem grounds_namelessReplies :
    Grounds (BootstrapSettings.default.under .fail) namelessReplies silentCluster "" := by
  constructor
  case connectable =>
    obtain ⟨hValid, hClient, hProbeUrl, hApiUrl⟩ := connectable_default
    exact ⟨hValid, hClient, hProbeUrl, hApiUrl⟩
  case probe => exact favourable_plainReplies.probe
  case listed => exact ⟨_, lists_namelessReplies, .ofUri "", List.mem_singleton_self _, rfl⟩
  case told => exact tellsOf_namelessReplies
  case roles =>
    exact ⟨_, clusterForm_silentCluster, fun role hMem => RoleSet.mem_names_ofList.mpr hMem⟩
  case self => exact .inr ⟨hidesSelf_silentCluster, rfl⟩

/-- A strict run sends an assignment to a nameless server though the endpoint has told nothing about
itself. -/
theorem strict_assignment_nameless :
    Sends (BootstrapSettings.default.under .fail) namelessReplies (·.AssignsTo "") ∧
      ∃ cluster, TellsOf namelessReplies cluster ∧ ∀ uri, ¬ Wire.TellsSelf cluster uri := by
  refine ⟨(sends_strict_iff rfl).mpr ⟨_, grounds_namelessReplies⟩, _, tellsOf_namelessReplies, ?_⟩
  intro uri hTells
  exact hTells.not_hidesSelf hidesSelf_silentCluster

end ClusterBootstrap
