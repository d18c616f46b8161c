import ClusterBootstrap.Client
import ClusterBootstrap.Proofs.Except

/-!
# What the client makes of a reply

Where an address can be used and a connection be made, a call takes the next reply that the peer has in
store, and that reply alone decides the answer.
-/

namespace ClusterBootstrap

open Net

/-! ## Replies -/

/-- Requests can be sent to this address. -/
def Net.Url.Usable (address : String) : Prop :=
  ∃ url, Url.parse address = .ok url ∧ url.isSendable = true

instance (address : String) : Decidable (Url.Usable address) :=
  match hParse : Url.parse address with
  | .error fault =>
    isFalse fun ⟨url, hUrl, _⟩ => by
      rw [hParse] at hUrl
      cases hUrl
  | .ok url =>
    decidable_of_iff (url.isSendable = true)
      ⟨fun hSendable => ⟨url, hParse, hSendable⟩, fun ⟨other, hOther, hSendable⟩ => by
        rw [hParse] at hOther
        cases hOther
        exact hSendable⟩

/-- The reply at this place has a status that means success, whatever becomes of its body. -/
def Succeeds (replies : List Reply) (n : Nat) : Prop :=
  ∃ status body completion,
    replies[n]? = some (.answered status body completion) ∧ status.isSuccess = true

/-- The reply at this place arrives completely, whatever its status, and is this envelope. -/
def Carries (replies : List Reply) (n : Nat) (envelope : Json) : Prop :=
  ∃ status body,
    replies[n]? = some (.answered status body .whole) ∧ Json.parseBytes body = .ok envelope

/-- The peer can be reached, and has used this many of its replies. -/
structure Net.Network.Spent (replies : List Reply) (n : Nat) (network : Network) : Prop where
  obstacle : network.obstacle = none
  replies : network.replies = replies.drop n

variable {replies : List Reply} {n : Nat} {network : Network}

theorem spent_ofReplies (replies : List Reply) : Network.Spent replies 0 (.ofReplies replies) :=
  ⟨rfl, rfl⟩

/-- A request uses one reply. -/
theorem Net.Network.Spent.exchange (h : Network.Spent replies n network) (request : Request) :
    Network.Spent replies (n + 1) (network.exchange request).2 := by
  -- the replies in store are those that are left, and the request takes the head of them
  obtain ⟨obstacle, stored, requests⟩ := network
  obtain ⟨hObstacle, hStored⟩ := h
  dsimp only at hObstacle hStored
  subst hObstacle
  have hTail : replies.drop (n + 1) = stored.tail := by rw [hStored, List.tail_drop]
  cases stored with
  | nil => exact ⟨rfl, hTail.symm⟩
  | cons reply rest => exact ⟨rfl, hTail.symm⟩

/-! ## The next exchange -/

/-- What comes of the next request, whichever it is. -/
def Net.Network.upcoming (network : Network) : Exchange :=
  match network.obstacle with
  | some reason => .notConnected reason
  | none => .sent (network.replies.head?.getD .dropped)

theorem Net.Network.exchange_fst (network : Network) (request : Request) :
    (network.exchange request).1 = network.upcoming := by
  obtain ⟨obstacle, replies, requests⟩ := network
  cases obstacle with
  | some reason => rfl
  | none =>
    cases replies with
    | nil => rfl
    | cons reply rest => rfl

/-- The next reply comes back, and where there is none the connection is closed. -/
theorem Net.Network.Spent.upcoming_eq (h : Network.Spent replies n network) :
    network.upcoming = .sent (replies[n]?.getD .dropped) := by
  rw [Network.upcoming, h.obstacle, h.replies, List.head?_drop]

variable {client : Client} {address : String}

/-- Every request to an address that can be used is made, and meets the next exchange. -/
theorem exists_attempt_eq (client : Client) (hUsable : Url.Usable address) :
    ∃ url, ∀ (network : Network) (body : Option String),
      (client.attempt address body network).1 = .made url network.upcoming := by
  obtain ⟨url, hParse, hSendable⟩ := hUsable
  refine ⟨url, fun network body => ?_⟩
  simp only [Client.attempt, hParse, hSendable, if_true]
  rw [network.exchange_fst]

theorem Net.Network.Spent.attempt (h : Network.Spent replies n network)
    (hUsable : Url.Usable address) (body : Option String) :
    (∃ url, (client.attempt address body network).1 =
      .made url (.sent (replies[n]?.getD .dropped))) ∧
      Network.Spent replies (n + 1) (client.attempt address body network).2 := by
  constructor
  · obtain ⟨url, hMade⟩ := exists_attempt_eq client hUsable
    exact ⟨url, by rw [hMade, h.upcoming_eq]⟩
  · obtain ⟨url, hParse, hSendable⟩ := hUsable
    simp only [Client.attempt, hParse, hSendable, if_true]
    exact h.exchange (client.requestTo url body)

/-! ## The probe -/

/-- A probe is content with a status that means success, whatever comes behind the status. -/
theorem exists_probeAnswer_made_iff {url : Url} {exchange : Exchange} :
    (∃ status, client.probeAnswer (.made url exchange) = .ok status) ↔
      ∃ status body completion,
        exchange = .sent (.answered status body completion) ∧ status.isSuccess = true := by
  cases exchange with
  | notConnected reason => simp [Client.probeAnswer, Client.probeAnswer.unreachable]
  | sent reply =>
    cases reply with
    | dropped => simp [Client.probeAnswer, Client.probeAnswer.unreachable]
    | silent => simp [Client.probeAnswer, Client.probeAnswer.unreachable]
    | answered status body completion =>
      cases hStatus : status.isSuccess with
      | true => simp [Client.probeAnswer, hStatus]
      | false => simp [Client.probeAnswer, Client.probeAnswer.unreachable, hStatus]

theorem exists_probeAnswer_iff (client : Client) (url : Url) :
    (∃ status, client.probeAnswer (.made url (.sent (replies[n]?.getD .dropped))) = .ok status) ↔
      Succeeds replies n := by
  rw [exists_probeAnswer_made_iff]
  unfold Succeeds
  cases replies[n]? with
  | none => simp
  | some reply => simp

/-- The answer of a probe is its verdict, and the network is that of its one request. -/
theorem probe_eq (client : Client) (network : Network) :
    let attempted := client.attempt client.settings.probeUrl none network
    (client.probe network).answer = (client.probeAnswer attempted.1).map (fun _ => ()) ∧
      (client.probe network).next = attempted.2 := by
  -- the request is named before the verdict on it, so that neither has to be computed
  simp only [Client.probe]
  rcases client.attempt client.settings.probeUrl none network with ⟨attempt, next⟩
  cases client.probeAnswer attempt with
  | ok status => exact ⟨rfl, rfl⟩
  | error e => exact ⟨rfl, rfl⟩

/-- A probe succeeds exactly when the next reply has a status that means success. -/
theorem Net.Network.Spent.probe (h : Network.Spent replies n network)
    (hUsable : Url.Usable client.settings.probeUrl) :
    ((client.probe network).answer = .ok () ↔ Succeeds replies n) ∧
      Network.Spent replies (n + 1) (client.probe network).next := by
  obtain ⟨⟨url, hMade⟩, hNext⟩ := h.attempt hUsable none
  obtain ⟨hAnswer, hAfter⟩ := probe_eq client network
  rw [hAnswer, hAfter, hMade, ← exists_probeAnswer_iff client url]
  refine ⟨?_, hNext⟩
  cases client.probeAnswer (.made url (.sent (replies[n]?.getD .dropped))) with
  | ok status => exact iff_of_true rfl ⟨status, rfl⟩
  | error e => exact iff_of_false nofun nofun

/-! ## Operations -/

/-- An answer is complete exactly when the whole body arrives. -/
theorem completeAnswer_made_eq_ok_iff {url : Url} {exchange : Exchange} {status : Status}
    {body : List UInt8} :
    client.completeAnswer (.made url exchange) = .ok (status, body) ↔
      exchange = .sent (.answered status body .whole) := by
  cases exchange with
  | notConnected reason => simp [Client.completeAnswer, Client.completeAnswer.transport]
  | sent reply =>
    cases reply with
    | dropped => simp [Client.completeAnswer, Client.completeAnswer.transport]
    | silent =>
      simp [Client.completeAnswer, Client.completeAnswer.timedOut,
        Client.completeAnswer.transport]
    | answered _ _ completion =>
      cases completion with
      | whole => simp [Client.completeAnswer]
      | cutShort => simp [Client.completeAnswer, Client.completeAnswer.transport]
      | stalled =>
        simp [Client.completeAnswer, Client.completeAnswer.timedOut,
          Client.completeAnswer.transport]

theorem completeAnswer_eq_ok_iff {url : Url} {status : Status} {body : List UInt8} :
    client.completeAnswer (.made url (.sent (replies[n]?.getD .dropped))) = .ok (status, body) ↔
      replies[n]? = some (.answered status body .whole) := by
  rw [completeAnswer_made_eq_ok_iff]
  cases replies[n]? with
  | none => simp
  | some reply => simp

/-- Only a body that is a JSON text gives an envelope, and the status does not count. -/
theorem envelopeOf_eq_ok_iff {operation : Wire.Operation} {status : Status} {body : List UInt8}
    {envelope : Json} :
    Client.envelopeOf operation status body = .ok envelope ↔
      Json.parseBytes body = .ok envelope :=
  mapError_eq_ok_iff

/-- The answer of an operation is its envelope, and the network is that of its one request. -/
theorem execute_eq (client : Client) (operation : Wire.Operation) (span : Log.Span)
    (body : String) (network : Network) :
    let attempted := client.attempt client.settings.apiUrl (some body) network
    (client.execute operation span body network).answer =
        (client.completeAnswer attempted.1).bind
          (fun answer => Client.envelopeOf operation answer.1 answer.2) ∧
      (client.execute operation span body network).next = attempted.2 := by
  unfold Client.execute
  rcases client.attempt client.settings.apiUrl (some body) network with ⟨attempt, next⟩
  dsimp only
  cases client.completeAnswer attempt with
  | error e => exact ⟨rfl, rfl⟩
  | ok answer =>
    dsimp only [Except.bind]
    cases Client.envelopeOf operation answer.1 answer.2 with
    | error e => exact ⟨rfl, rfl⟩
    | ok envelope => exact ⟨rfl, rfl⟩

/-- An operation is answered exactly by the envelope that the next reply carries. -/
theorem Net.Network.Spent.execute (h : Network.Spent replies n network)
    (hUsable : Url.Usable client.settings.apiUrl) (operation : Wire.Operation)
    (span : Log.Span) (body : String) :
    (∀ envelope, (client.execute operation span body network).answer = .ok envelope ↔
      Carries replies n envelope) ∧
      Network.Spent replies (n + 1) (client.execute operation span body network).next := by
  obtain ⟨⟨url, hMade⟩, hNext⟩ := h.attempt hUsable (some body)
  obtain ⟨hAnswer, hAfter⟩ := execute_eq client operation span body network
  rw [hAnswer, hAfter, hMade]
  refine ⟨fun envelope => ?_, hNext⟩
  rw [bind_eq_ok_iff]
  -- a complete answer is a reply whose whole body arrives, and its envelope is that body's text
  constructor
  · rintro ⟨⟨status, body⟩, hComplete, hEnvelope⟩
    have hReply := completeAnswer_eq_ok_iff.mp hComplete
    exact ⟨status, body, hReply, envelopeOf_eq_ok_iff.mp hEnvelope⟩
  · rintro ⟨status, body, hReply, hParse⟩
    refine ⟨(status, body), completeAnswer_eq_ok_iff.mpr hReply, ?_⟩
    exact envelopeOf_eq_ok_iff.mpr hParse

/-- What an answer comes to is what it means, and asks nothing more of the network. -/
theorem interpret_eq {α : Type} (outcome : Outcome Network Json)
    (decode : Json → Except BootstrapError α) (records : α → List LogRecord)
    (hRecords : ∀ a, ∀ r ∈ records a, r.source = .client) :
    (Client.interpret outcome decode records hRecords).answer = outcome.answer.bind decode ∧
      (Client.interpret outcome decode records hRecords).next = outcome.next := by
  obtain ⟨answer, log, next, hSource⟩ := outcome
  unfold Client.interpret
  cases answer with
  | error e => exact ⟨rfl, rfl⟩
  | ok envelope =>
    dsimp only [Except.bind]
    cases decode envelope with
    | error e => exact ⟨rfl, rfl⟩
    | ok a => exact ⟨rfl, rfl⟩

/-- A call that reads an envelope is answered by what the next reply carries. -/
theorem Net.Network.Spent.interpret {α : Type} {decode : Json → Except BootstrapError α}
    {records : α → List LogRecord} {hRecords : ∀ a, ∀ r ∈ records a, r.source = .client}
    (h : Network.Spent replies n network) (hUsable : Url.Usable client.settings.apiUrl)
    (operation : Wire.Operation) (span : Log.Span) (body : String) :
    (∀ a, (Client.interpret (client.execute operation span body network) decode records
        hRecords).answer = .ok a ↔
      ∃ envelope, Carries replies n envelope ∧ decode envelope = .ok a) ∧
      Network.Spent replies (n + 1)
        (Client.interpret (client.execute operation span body network) decode records
          hRecords).next := by
  obtain ⟨hAnswer, hNext⟩ := h.execute hUsable operation span body
  obtain ⟨hMeaning, hSame⟩ := interpret_eq (client.execute operation span body network) decode
    records hRecords
  rw [hMeaning, hSame]
  refine ⟨fun a => ?_, hNext⟩
  rw [bind_eq_ok_iff]
  simp only [hAnswer]

/-- Servers are listed as the next reply lists them. -/
theorem Net.Network.Spent.servers (h : Network.Spent replies n network)
    (hUsable : Url.Usable client.settings.apiUrl) :
    (∀ nodes, (client.servers network).answer = .ok nodes ↔
      ∃ envelope, Carries replies n envelope ∧ Wire.decodeServers envelope = .ok nodes) ∧
      Network.Spent replies (n + 1) (client.servers network).next :=
  h.interpret hUsable ..

/-- The state of the cluster is told as the next reply tells it. -/
theorem Net.Network.Spent.clusterState (h : Network.Spent replies n network)
    (hUsable : Url.Usable client.settings.apiUrl) :
    (∀ state, (client.clusterState network).answer = .ok state ↔
      ∃ envelope, Carries replies n envelope ∧ Wire.decodeClusterState envelope = .ok state) ∧
      Network.Spent replies (n + 1) (client.clusterState network).next :=
  h.interpret hUsable ..

/-- An assignment is judged by the envelope that the next reply carries. -/
theorem Net.Network.Spent.assign (h : Network.Spent replies n network)
    (hUsable : Url.Usable client.settings.apiUrl) (request : AssignmentRequest) :
    (∀ result, (client.assign request network).answer = .ok result ↔
      ∃ envelope, Carries replies n envelope ∧ Wire.classify envelope = result) ∧
      Network.Spent replies (n + 1) (client.assign request network).next := by
  refine ⟨fun result => ((h.interpret hUsable ..).1 result).trans ?_, (h.interpret hUsable ..).2⟩
  simp only [Except.ok.injEq]

/-- An assignment is accepted exactly when its result is there and no error list is, whatever the two
hold. -/
theorem accepted_classify_iff {envelope : Json} :
    (Wire.classify envelope).accepted = true ↔
      ∃ members data, envelope = .object members ∧ members.lookup "data" = some (.object data) ∧
        (data.lookup "join_server").isSome ∧ members.lookup "errors" = none := by
  -- only an object has members, and only an object in `data` has the key
  cases envelope with
  | object members =>
    cases hData : members.lookup "data" with
    | none => simp [Wire.classify, Wire.hasAssignment, Json.hasMember, hData]
    | some data =>
      cases data with
      | object inner =>
        simp [Wire.classify, Wire.hasAssignment, Json.hasMember, Wire.assignmentKey, hData]
      | _ => simp [Wire.classify, Wire.hasAssignment, Json.hasMember, Json.get?, hData]
  | _ => simp [Wire.classify, Wire.hasAssignment, Json.get?]

end ClusterBootstrap
