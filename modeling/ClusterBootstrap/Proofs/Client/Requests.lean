import ClusterBootstrap.Proofs.Client.Answers
import ClusterBootstrap.Proofs.Net.Address
import ClusterBootstrap.Proofs.Run.Calls

/-!
# What the client sends

Every call is one request, and nothing else is ever sent.  So the peer of a run receives the calls of the
run, one request for each and in their order, and has used as many replies.
-/

namespace ClusterBootstrap

open Net

/-! ## Requests -/

/-- A plain GET, without content. -/
def Net.Request.getOf (userAgent : String) (url : Url) : Request :=
  { method := .get, url := url.target, contentType := none, userAgent, body := "" }

/-- A POST of a JSON document. -/
def Net.Request.postOf (userAgent : String) (url : Url) (body : String) : Request :=
  { method := .post, url := url.target, contentType := some "application/json", userAgent, body }

/-- The two addresses of a client: where it probes, and where it sends its operations. -/
structure Addresses (settings : ClientSettings) where
  probe : Url
  api : Url
  parse_probe : Url.parse settings.probeUrl = .ok probe
  parse_api : Url.parse settings.apiUrl = .ok api
  sendable_probe : probe.isSendable = true
  sendable_api : api.isSendable = true

/-- The request that a call makes. -/
def Addresses.requestOf {settings : ClientSettings} (addresses : Addresses settings) :
    Call → Request
  | .probe => .getOf settings.userAgent addresses.probe
  | .servers => .postOf settings.userAgent addresses.api Wire.serversBody
  | .clusterState => .postOf settings.userAgent addresses.api Wire.clusterStateBody
  | .assign request =>
    .postOf settings.userAgent addresses.api (Wire.assignmentBody request)

/-- Where a call goes. -/
def Client.addressOf (client : Client) : Call → String
  | .probe => client.settings.probeUrl
  | .servers | .clusterState | .assign _ => client.settings.apiUrl

/-- The document that a call sends; the probe sends none. -/
def Client.bodyOf : Call → Option String
  | .probe => none
  | .servers => some Wire.serversBody
  | .clusterState => some Wire.clusterStateBody
  | .assign request => some (Wire.assignmentBody request)

/-- The requests of a call: one, or none if its address cannot be used. -/
def Client.requestsOf (client : Client) (call : Call) : List Request :=
  match Url.parse (client.addressOf call) with
  | .error _ => []
  | .ok url => if url.isSendable then [client.requestTo url (Client.bodyOf call)] else []

theorem Addresses.usable_api {settings : ClientSettings} (addresses : Addresses settings) :
    Url.Usable settings.apiUrl :=
  ⟨addresses.api, addresses.parse_api, addresses.sendable_api⟩

/-! ## Where requests go -/

section

variable {client : Client} {call : Call} {url : Url} {request : Request}

theorem url_of_mem_requestsOf (hParse : Url.parse (client.addressOf call) = .ok url)
    (hMem : request ∈ client.requestsOf call) : request.url = url.target := by
  unfold Client.requestsOf at hMem
  rw [hParse] at hMem
  dsimp only at hMem
  split at hMem
  · obtain rfl := List.mem_singleton.mp hMem
    cases Client.bodyOf call with
    | none => rfl
    | some body => rfl
  · cases hMem

/-- The target of a request is read as the address that the call goes to; only a fragment is not sent. -/
theorem parse_url_of_mem_requestsOf (hParse : Url.parse (client.addressOf call) = .ok url)
    (hCredentials : url.credentials = "") (hHost : Host.normalize url.host.toList = .ok url.host)
    (hMem : request ∈ client.requestsOf call) :
    Url.parse request.url = .ok { url with fragment := none } := by
  rw [url_of_mem_requestsOf hParse hMem]
  exact (Url.normal_of_parse hParse hCredentials hHost).parse_target

/-- Settings that have an address in normal form are taken at their word. -/
theorem url_eq_addressOf (hNormal : url.Normal) (hAddress : client.addressOf call = url.target)
    (hMem : request ∈ client.requestsOf call) : request.url = client.addressOf call := by
  have hParse : Url.parse (client.addressOf call) = .ok { url with fragment := none } :=
    hAddress ▸ hNormal.parse_target
  rw [url_of_mem_requestsOf hParse hMem, hAddress]
  rfl

end

/-! ## One call -/

/-- The peer can be reached, has received exactly these requests, and has used one reply for each. -/
structure Net.Network.Served (replies : List Reply) (sent : List Request) (network : Network) :
    Prop extends Network.Spent replies sent.length network where
  requests : network.requests = sent

variable {replies : List Reply} {sent : List Request} {network : Network} {client : Client}

theorem served_ofReplies (replies : List Reply) :
    Network.Served replies [] (.ofReplies replies) :=
  ⟨spent_ofReplies replies, rfl⟩

theorem requests_exchange (request : Request) (hObstacle : network.obstacle = none) :
    (network.exchange request).2.requests = network.requests ++ [request] := by
  unfold Network.exchange
  rw [hObstacle]
  cases network.replies with
  | nil => rfl
  | cons reply rest => rfl

/-- A request to an address that can be used is received. -/
theorem Net.Network.Served.attempt {address : String} {url : Url}
    (h : Network.Served replies sent network) (hParse : Url.parse address = .ok url)
    (hSendable : url.isSendable = true) (body : Option String) :
    Network.Served replies (sent ++ [client.requestTo url body])
      (client.attempt address body network).2 := by
  have hSpent : Network.Spent replies (sent.length + 1) (client.attempt address body network).2 :=
    (h.toSpent.attempt ⟨url, hParse, hSendable⟩ body).2
  have hRequests := requests_exchange (client.requestTo url body) h.obstacle
  refine ⟨by simpa using hSpent, ?_⟩
  simpa [Client.attempt, hParse, hSendable, h.requests] using hRequests

/-- What is made of an answer sends nothing. -/
theorem next_interpret {α : Type} (operation : Wire.Operation) (span : Log.Span) (body : String)
    (decode : Json → Except BootstrapError α) (records : α → List LogRecord)
    (hRecords : ∀ a, ∀ r ∈ records a, r.source = .client) :
    (Client.interpret (client.execute operation span body network) decode records hRecords).next =
      (client.attempt client.settings.apiUrl (some body) network).2 :=
  (interpret_eq ..).2.trans (execute_eq ..).2

/-- The network after a call is that of its one request, whatever is answered. -/
theorem after_plane (client : Client) (network : Network) (call : Call) :
    client.plane.after network call =
      (client.attempt (client.addressOf call) (Client.bodyOf call) network).2 := by
  -- the answer is not computed, only the network behind it is named
  cases call with
  | probe => simp only [ControlPlane.after, Client.plane, (probe_eq client network).2,
      Client.addressOf, Client.bodyOf]
  | servers => simp only [ControlPlane.after, Client.plane, Client.servers, next_interpret,
      Client.addressOf, Client.bodyOf]
  | clusterState => simp only [ControlPlane.after, Client.plane, Client.clusterState,
      next_interpret, Client.addressOf, Client.bodyOf]
  | assign request => simp only [ControlPlane.after, Client.plane, Client.assign, next_interpret,
      Client.addressOf, Client.bodyOf]

/-- A call sends its one request. -/
theorem Net.Network.Served.after (h : Network.Served replies sent network)
    (addresses : Addresses client.settings) (call : Call) :
    Network.Served replies (sent ++ [addresses.requestOf call])
      (client.plane.after network call) := by
  rw [after_plane]
  cases call with
  | probe => exact h.attempt addresses.parse_probe addresses.sendable_probe none
  | servers => exact h.attempt addresses.parse_api addresses.sendable_api (some Wire.serversBody)
  | clusterState =>
    exact h.attempt addresses.parse_api addresses.sendable_api (some Wire.clusterStateBody)
  | assign request =>
    exact h.attempt addresses.parse_api addresses.sendable_api (some (Wire.assignmentBody request))

theorem obstacle_attempt (client : Client) (address : String) (body : Option String)
    (network : Network) : (client.attempt address body network).2.obstacle = network.obstacle := by
  unfold Client.attempt
  cases Url.parse address with
  | error fault => rfl
  | ok url =>
    dsimp only
    split
    · unfold Network.exchange
      cases hObstacle : network.obstacle with
      | some reason => simp [hObstacle]
      | none => cases network.replies <;> simp
    · rfl

/-- No call makes an obstacle or removes one. -/
theorem obstacle_after (call : Call) :
    (client.plane.after network call).obstacle = network.obstacle := by
  rw [after_plane]
  exact obstacle_attempt ..

theorem obstacle_foldl_after (calls : List Call) :
    (calls.foldl client.plane.after network).obstacle = network.obstacle := by
  induction calls generalizing network with
  | nil => rfl
  | cons call rest ih => exact ih.trans (obstacle_after call)

/-- Where connections can be made, a call adds its own requests to those that were received. -/
theorem requests_after (hObstacle : network.obstacle = none) (call : Call) :
    (client.plane.after network call).requests = network.requests ++ client.requestsOf call := by
  rw [after_plane]
  unfold Client.attempt Client.requestsOf
  cases Url.parse (client.addressOf call) with
  | error fault => exact (List.append_nil _).symm
  | ok url =>
    cases hSendable : url.isSendable with
    | false => simp [hSendable]
    | true => simpa [hSendable] using requests_exchange _ hObstacle

/-! ## The calls of a run -/

/-- Calls made one after the other send one request each, in their order. -/
theorem Net.Network.Served.foldl_after (h : Network.Served replies sent network)
    (addresses : Addresses client.settings) (calls : List Call) :
    Network.Served replies (sent ++ calls.map addresses.requestOf)
      (calls.foldl client.plane.after network) := by
  -- on the calls, for every network that they can start from
  induction calls generalizing sent network with
  | nil => simpa using h
  | cons call rest ih => simpa using ih (h.after addresses call)

theorem requests_foldl_after (hObstacle : network.obstacle = none) (calls : List Call) :
    (calls.foldl client.plane.after network).requests =
      network.requests ++ calls.flatMap client.requestsOf := by
  -- no obstacle comes up in between, so the step is the one of the first call
  induction calls generalizing network with
  | nil => exact (List.append_nil _).symm
  | cons call rest ih =>
    have hAfter : (client.plane.after network call).obstacle = none :=
      (obstacle_after call).trans hObstacle
    rw [List.foldl_cons, ih hAfter, requests_after hObstacle, List.flatMap_cons, List.append_assoc]

/-- What a run sends is settled by its calls. -/
theorem requests_bootstrap (client : Client) (settings : BootstrapSettings)
    (hObstacle : network.obstacle = none) :
    (bootstrap client.plane settings network).plane.requests =
      network.requests ++
        (bootstrap client.plane settings network).calls.flatMap client.requestsOf := by
  rw [plane_bootstrap]
  exact requests_foldl_after hObstacle _

/-- The peer of a run receives the calls of the run. -/
theorem served_bootstrap (addresses : Addresses client.settings) (settings : BootstrapSettings)
    (replies : List Reply) :
    Network.Served replies
      ((bootstrap client.plane settings (.ofReplies replies)).calls.map addresses.requestOf)
      (bootstrap client.plane settings (.ofReplies replies)).plane := by
  rw [plane_bootstrap]
  exact (served_ofReplies replies).foldl_after addresses _

end ClusterBootstrap
