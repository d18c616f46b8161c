import ClusterBootstrap.Proofs.Run.Payload
import ClusterBootstrap.Proofs.Wire.Assignment
import ClusterBootstrap.Proofs.Wire.ClusterState

/-!
# Which settings can lead to an assignment

Settings are checked before a run, and some that pass the check can still lead nowhere: the check and the
client do not read an endpoint in the same way, and a user agent is not checked at all.  What else is
needed is told here exactly.  With all of it there are always replies that lead to the goal.
-/

namespace ClusterBootstrap

open Net

variable {settings : BootstrapSettings} {replies : List Reply}

/-- Some replies of the peer lead a run with these settings to its goal. -/
def Attainable (settings : BootstrapSettings) : Prop :=
  ∃ replies progress, connect settings (.ofReplies replies) = .ok progress ∧
    progress.report.phase = .done

/-! ## What an assignment needs -/

/-- Checked settings make a client unless the user agent cannot be sent. -/
theorem exists_client_iff (hValid : settings.validate = .ok ()) :
    (∃ client, Client.ofSettings settings.client = .ok client) ↔
      Client.isHeaderValue settings.client.userAgent = true := by
  obtain ⟨_, hChecked, -⟩ := bind_eq_ok_iff.mp hValid
  unfold Client.ofSettings
  rw [hChecked]
  cases hHeader : Client.isHeaderValue settings.client.userAgent with
  | true => exact iff_of_true ⟨_, rfl⟩ rfl
  | false =>
    refine iff_of_false ?_ (by decide)
    rintro ⟨client, hMade⟩
    cases hMade

/-- A run that has listed servers has sent requests to both addresses. -/
theorem Listed.connectable {client : Client} {network : Network} {nodes : List Node}
    (hListed : Listed client.plane settings network nodes)
    (hClient : Client.ofSettings settings.client = .ok client) : Connectable settings := by
  obtain ⟨hProbeUrl, hApiUrl⟩ := hListed.usable
  have hSettings := settings_of_ofSettings hClient
  exact ⟨hListed.valid, ⟨client, hClient⟩, hSettings ▸ hProbeUrl, hSettings ▸ hApiUrl⟩

/-- A run that comes to its goal can be made. -/
theorem connectable_of_attainable (hAttainable : Attainable settings) : Connectable settings := by
  obtain ⟨replies, progress, hRun, hDone⟩ := hAttainable
  obtain ⟨client, -, hClient, hReport, -⟩ := exists_client_of_connect hRun
  rw [hReport] at hDone
  rcases exists_failsAt_or_completes client.plane settings (.ofReplies replies) with
    ⟨gate, e, hFails⟩ | ⟨nodes, state, located, request, result, hCompletes⟩
  · -- a run that a gate stops does not come to its goal
    cases hDone.symm.trans hFails.phase_eq
  · exact hCompletes.toListed.connectable hClient

/-! ## Replies that suit every run -/

/-- The state of a cluster in which a server with this uri knows these roles, and nothing else is told. -/
def stateKnowing (uri : String) (roles : List String) : ClusterState :=
  { selfUri := uri, selfUuid := "", failover := .disabled, knownRoles := .ofList roles
    canBootstrapVshard := false, vshardBucketCount := 0 }

/-- The cluster of such a server, as it is told. -/
def clusterKnowing (uri : String) (roles : List String) : Json :=
  .object [("known_roles", .strings roles), ("self", .object [("uri", .string uri)])]

/-- An answer that tells this state. -/
def knowing (uri : String) (roles : List String) : Json :=
  .object [("data", .object [("cluster", clusterKnowing uri roles)])]

theorem readable_knowing (uri : String) (roles : List String) :
    Json.Readable Json.depthLimit (knowing uri roles) := by
  have hSelf : Json.Readable 124 (.object [("uri", .string uri)]) :=
    .object (List.forall_mem_singleton.mpr (.string uri))
  have hCluster : Json.Readable 125 (clusterKnowing uri roles) := by
    apply Json.Readable.object
    exact List.forall_mem_cons.mpr
      ⟨Wire.readable_strings 123 roles, List.forall_mem_singleton.mpr hSelf⟩
  have hData : Json.Readable 126 (.object [("cluster", clusterKnowing uri roles)]) :=
    .object (List.forall_mem_singleton.mpr hCluster)
  exact .object (List.forall_mem_singleton.mpr hData)

/-- The members are written by ascending names already. -/
theorem normal_knowing (uri : String) (roles : List String) :
    (knowing uri roles).normal = knowing uri roles := by
  simp only [knowing, clusterKnowing, Json.normal, Json.normalMembers, Wire.normal_strings,
    Json.ofMembers, List.foldl_cons, List.foldl_nil, Json.insertMember, String.reduceLT,
    String.reduceEq, if_false]

theorem clusterForm_knowing (uri : String) (roles : List String) :
    Wire.ClusterForm (clusterKnowing uri roles) (stateKnowing uri roles) := by
  have hUri : Json.Nullable Json.Text (.string uri) (some uri) := .some (by simp) rfl
  have hSelf : Wire.SelfForm (.object [("uri", .string uri)]) (some uri, none) :=
    ⟨_, .object, .present hUri, .absent⟩
  refine ⟨_, .object, ?_⟩
  -- all that is not told has its default
  constructor
  case self => exact ⟨some (some uri, none), .present (.some (by simp) hSelf), rfl, rfl⟩
  case failover => exact ⟨none, .absent, rfl⟩
  case knownRoles => exact .present ⟨roles, rfl, fun _ => RoleSet.mem_names_ofList⟩
  case canBootstrapVshard => exact .absent
  case vshardBucketCount => exact .absent

theorem decodeClusterState_knowing (uri : String) (roles : List String) :
    Wire.decodeClusterState (knowing uri roles) = .ok (stateKnowing uri roles) := by
  have hData : Wire.ResultPart (knowing uri roles)
      (.object [("cluster", clusterKnowing uri roles)]) :=
    ⟨_, rfl, rfl, by simp⟩
  rw [hData.decodeClusterState_eq_ok_iff]
  exact ⟨clusterKnowing uri roles, .member rfl, clusterForm_knowing uri roles⟩

/-- The replies to the default settings, but that the only server knows itself and these roles. -/
def repliesKnowing (roles : List String) : List Reply :=
  plainReplies.set 2 (.answered .ok (Json.bytesOf (knowing "a:1" roles).compact) .whole)

theorem getElem?_repliesKnowing (roles : List String) {n : Nat} (hOther : n ≠ 2) :
    (repliesKnowing roles)[n]? = plainReplies[n]? :=
  List.getElem?_set_ne hOther.symm

/-- A reply that is the text of a document carries the document. -/
theorem carries_compact {n : Nat} {status : Status} {document : Json}
    (hReply : replies[n]? = some (.answered status (Json.bytesOf document.compact) .whole))
    (hReadable : Json.Readable Json.depthLimit document) (hNormal : document.normal = document) :
    Carries replies n document := by
  refine ⟨status, _, hReply, ?_⟩
  have hParse := Json.parse_compact hReadable
  rw [hNormal] at hParse
  exact hParse

theorem carries_repliesKnowing (roles : List String) :
    Carries (repliesKnowing roles) 2 (knowing "a:1" roles) :=
  carries_compact rfl (readable_knowing "a:1" roles) (normal_knowing "a:1" roles)

/-- Such replies suit all settings that ask for no other roles. -/
theorem favourable_repliesKnowing (settings : BootstrapSettings) :
    Favourable settings (repliesKnowing settings.roles) [.ofUri "a:1"]
      (stateKnowing "a:1" settings.roles) := by
  have hPlain := favourable_plainReplies
  constructor
  case probe =>
    unfold Succeeds
    rw [getElem?_repliesKnowing _ (by decide)]
    exact hPlain.probe
  case servers =>
    unfold Carries
    rw [getElem?_repliesKnowing _ (by decide)]
    exact hPlain.servers
  case nonempty => exact List.cons_ne_nil _ _
  case clusterState => exact ⟨_, carries_repliesKnowing _, decodeClusterState_knowing ..⟩
  case node => exact .inl ⟨.ofUri "a:1", List.mem_singleton_self _, rfl⟩
  case roles => exact fun role hMem => RoleSet.mem_names_ofList.mpr hMem
  case assignment =>
    unfold Carries
    rw [getElem?_repliesKnowing _ (by decide)]
    exact hPlain.assignment

/-- Settings lead to an assignment, with some replies, exactly if they pass the check, the user agent can be
sent in a header, and requests can be sent to the two addresses.  The check alone does not imply the rest. -/
theorem attainable_iff (settings : BootstrapSettings) :
    Attainable settings ↔
      settings.validate = .ok () ∧ Client.isHeaderValue settings.client.userAgent = true ∧
        Url.Usable settings.client.probeUrl ∧ Url.Usable settings.client.apiUrl := by
  constructor
  · intro hAttainable
    have hConnectable := connectable_of_attainable hAttainable
    exact ⟨hConnectable.valid, (exists_client_iff hConnectable.valid).mp hConnectable.client,
      hConnectable.probeUrl, hConnectable.apiUrl⟩
  · rintro ⟨hValid, hHeader, hProbeUrl, hApiUrl⟩
    have hConnectable : Connectable settings :=
      ⟨hValid, (exists_client_iff hValid).mpr hHeader, hProbeUrl, hApiUrl⟩
    exact ⟨_, (favourable_repliesKnowing settings).exists_done hConnectable⟩

/-- A port may be written with a plus sign, but no address has such a port. -/
theorem not_attainable_signed_port :
    let settings : BootstrapSettings := { client := .ofEndpoint "h:+80" }
    settings.validate = .ok () ∧ ¬ Attainable settings := by
  intro settings
  have hValid : settings.validate = .ok () := by decide +kernel
  have hUnusable : ¬ Url.Usable settings.client.probeUrl := by decide +kernel
  refine ⟨hValid, ?_⟩
  intro hAttainable
  exact hUnusable (connectable_of_attainable hAttainable).probeUrl

end ClusterBootstrap
