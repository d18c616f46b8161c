import ClusterBootstrap.ControlPlane
import ClusterBootstrap.Json.Reader
import ClusterBootstrap.Net.Exchange
import ClusterBootstrap.Net.Url
import ClusterBootstrap.Settings.Bootstrap
import ClusterBootstrap.Wire.Discovery

/-!
# The control-plane client

The client makes the four calls of a control plane over the network.  The probe is a plain GET of the
root; every query and the mutation is one POST of a JSON document.  No request is ever repeated.
-/

namespace ClusterBootstrap

/-- A client; its settings are valid, and its user agent can be sent. -/
structure Client where
  settings : ClientSettings

namespace Client

open Net

/-! ## Making a client -/

/-- Whether a text can be sent in a header: no control characters but the tab. -/
def isHeaderValue (text : String) : Bool :=
  text.toList.all fun c => (0x20 ≤ c.toNat && c.toNat ≠ 0x7f) || c = '\t'

/-- The record of a new client. -/
def openingRecord (settings : ClientSettings) : LogRecord :=
  { level := .info, source := .client, text := "Using control plane at " ++ settings.apiUrl }

/-- A client for valid settings. -/
def ofSettings (settings : ClientSettings) : Except BootstrapError Client := do
  settings.validate.mapError SettingsFault.toError
  if isHeaderValue settings.userAgent then return { settings }
  else
    throw (.configuration
      "failed to build HTTP client: builder error: failed to parse header value")

/-! ## One request -/

/-- What came of trying to make a request. -/
inductive Attempt where
  /-- The address cannot be used, and nothing was sent. -/
  | unusable (fault : UrlFault)
  /-- The address cannot be sent. -/
  | unsendable (url : Url)
  | made (url : Url) (exchange : Exchange)

/-- The request of a probe or an operation. -/
def requestTo (client : Client) (url : Url) : Option String → Request
  | none =>
    { method := .get, url := url.target, contentType := none
      userAgent := client.settings.userAgent, body := "" }
  | some body =>
    { method := .post, url := url.target, contentType := some "application/json"
      userAgent := client.settings.userAgent, body }

/-- Makes a request to an address: a POST with the given body, or a GET without one. -/
def attempt (client : Client) (address : String) (body : Option String) (network : Network) :
    Attempt × Network :=
  match Url.parse address with
  | .error fault => (.unusable fault, network)
  | .ok url =>
    if url.isSendable then
      let (exchange, network) := network.exchange (client.requestTo url body)
      (.made url exchange, network)
    else (.unsendable url, network)

/-- The message of an address that cannot be used. -/
def unusableText (fault : UrlFault) : String := "builder error: " ++ fault.text

/-- The message of an address that cannot be sent. -/
def unsendableText (url : Url) : String :=
  "builder error for url (" ++ url.text ++ "): Parsed Url is not a valid Uri"

/-- The message of a request that got no answer. -/
def sendingText (url : Url) (cause : String) : String :=
  "error sending request for url (" ++ url.text ++ "): " ++ cause

/-- Why no connection was made. -/
def connectText (reason : String) : String :=
  "error trying to connect: tcp connect error: " ++ reason

/-- Why a request that was sent got no answer. -/
def droppedText : String := "connection closed before message completed"

/-- The message of a body that broke off or stalled. -/
def bodyText (cause : String) : String := "request or response body error: " ++ cause

/-! ## The probe -/

/-- The verdict on a probe.  Only the status counts; the body is never read. -/
def probeAnswer (client : Client) : Attempt → Except BootstrapError Status
  | .unusable fault => unreachable (unusableText fault)
  | .unsendable url => unreachable (unsendableText url)
  | .made url (.notConnected reason) => unreachable (sendingText url (connectText reason))
  | .made url (.sent .dropped) => unreachable (sendingText url droppedText)
  | .made _ (.sent .silent) =>
    unreachable ("no answer within " ++ toString client.settings.probeTimeout.toNat ++ "s")
  | .made _ (.sent (.answered status _ _)) =>
    if status.isSuccess then .ok status
    else unreachable ("GET " ++ client.settings.probeUrl ++ " returned HTTP " ++ status.text)
where
  unreachable (message : String) : Except BootstrapError Status :=
    .error (.unreachable client.settings.endpoint message)

/-- A record written during a call. -/
def record (level : Log.Level) (span : Log.Span) (text : String) : LogRecord :=
  { level, source := .client, span := some span, text }

@[simp] theorem source_record (level : Log.Level) (span : Log.Span) (text : String) :
    (record level span text).source = .client := rfl

/-- The span of a call. -/
def spanOf : Call → Log.Span
  | .probe => { name := "probe" }
  | .servers => { name := "get_servers" }
  | .clusterState => { name := "get_cluster_state" }
  | .assign request => { name := "assign_role", uri := some request.node.uri }

/-- Probes the control plane. -/
def probe (client : Client) (network : Network) : Outcome Network Unit :=
  let url := client.settings.probeUrl
  let (attempt, next) := client.attempt url none network
  match client.probeAnswer attempt with
  | .ok status =>
    { answer := .ok (), next
      log := [record .debug (spanOf .probe)
        ("Probe of " ++ url ++ " succeeded with HTTP " ++ status.text)] }
  | .error e => { answer := .error e, next }

/-! ## Operations -/

/-- The status and the complete body of an answer. -/
def completeAnswer (client : Client) : Attempt → Except BootstrapError (Status × List UInt8)
  | .unusable fault => transport (unusableText fault)
  | .unsendable url => transport (unsendableText url)
  | .made url (.notConnected reason) => transport (sendingText url (connectText reason))
  | .made url (.sent .dropped) => transport (sendingText url droppedText)
  | .made url (.sent .silent) => timedOut (sendingText url "operation timed out")
  | .made _ (.sent (.answered status body .whole)) => .ok (status, body)
  | .made _ (.sent (.answered _ _ .cutShort)) =>
    transport (bodyText
      "error reading a body from connection: end of file before message length reached")
  | .made _ (.sent (.answered _ _ .stalled)) => timedOut (bodyText "operation timed out")
where
  transport {α : Type} (message : String) : Except BootstrapError α :=
    .error (.transport client.settings.endpoint message)
  timedOut {α : Type} (cause : String) : Except BootstrapError α :=
    transport
      ("timed out after " ++ toString client.settings.requestTimeout.toNat ++ "s: " ++ cause)

/-- The envelope in a complete answer.  The status does not count, and only a body that is no JSON text
shows it. -/
def envelopeOf (operation : Wire.Operation) (status : Status) (body : List UInt8) :
    Except BootstrapError Json :=
  (Json.parseBytes body).mapError fun e =>
    .malformed operation.name ("HTTP " ++ status.text ++ " with non-JSON body: " ++ e.text)

/-- Sends an operation and reads the envelope of its answer.  With the answer come the records about
it. -/
def execute (client : Client) (operation : Wire.Operation) (span : Log.Span) (body : String)
    (network : Network) : Outcome Network Json :=
  let (attempt, next) := client.attempt client.settings.apiUrl (some body) network
  match client.completeAnswer attempt with
  | .error e => { answer := .error e, next }
  | .ok (status, bytes) =>
    match envelopeOf operation status bytes with
    | .error e => { answer := .error e, next }
    | .ok envelope =>
      { answer := .ok envelope, next
        log := [record .debug span
          (operation.name ++ " -> HTTP " ++ status.text ++ ": " ++ envelope.compact)] }

/-- Continues a call with what its answer means and the records that go with it. -/
def interpret {α : Type} (outcome : Outcome Network Json)
    (decode : Json → Except BootstrapError α) (records : α → List LogRecord)
    (hRecords : ∀ a, ∀ r ∈ records a, r.source = .client) : Outcome Network α :=
  match outcome.answer with
  | .error e => { outcome with answer := .error e }
  | .ok envelope =>
    match decode envelope with
    | .error e => { outcome with answer := .error e }
    | .ok a =>
      { answer := .ok a, next := outcome.next
        log := outcome.log ++ records a
        fromClient := List.forall_mem_append.mpr ⟨outcome.fromClient, hRecords a⟩ }

/-- The uris that some earlier node has already, in order and as often as they come again. -/
def repeatedUris : (seen : List String) → List Node → List String
  | _, [] => []
  | seen, node :: nodes =>
    if node.uri ∈ seen then node.uri :: repeatedUris seen nodes
    else repeatedUris (node.uri :: seen) nodes

/-- The records about listed servers: a warning for each uri that comes again, and their number. -/
def serversRecords (nodes : List Node) : List LogRecord :=
  let span := spanOf .servers
  (repeatedUris [] nodes).map
      (fun uri => record .warn span ("Control plane listed uri " ++ uri ++ " more than once")) ++
    [record .info span ("Discovered " ++ toString nodes.length ++ " servers")]

theorem source_serversRecords (nodes : List Node) :
    ∀ r ∈ serversRecords nodes, r.source = .client := by
  intro r hr
  simp only [serversRecords, List.mem_append, List.mem_map, List.mem_singleton] at hr
  rcases hr with ⟨_, _, rfl⟩ | rfl <;> rfl

/-- Asks for the servers. -/
def servers (client : Client) (network : Network) : Outcome Network (List Node) :=
  interpret (client.execute .getServers (spanOf .servers) Wire.serversBody network)
    Wire.decodeServers serversRecords source_serversRecords

/-- The record about the state of the cluster. -/
def clusterStateRecords (state : ClusterState) : List LogRecord :=
  [record .info (spanOf .clusterState)
    ("Cluster self=" ++ state.selfUri ++ " failover=" ++ state.failover.display ++
      " known_roles=" ++ toString state.knownRoles.size)]

theorem source_clusterStateRecords (state : ClusterState) :
    ∀ r ∈ clusterStateRecords state, r.source = .client := by
  simp [clusterStateRecords]

/-- Asks for the state of the cluster. -/
def clusterState (client : Client) (network : Network) : Outcome Network ClusterState :=
  interpret
    (client.execute .getClusterState (spanOf .clusterState) Wire.clusterStateBody network)
    Wire.decodeClusterState clusterStateRecords source_clusterStateRecords

/-- The record about an assignment. -/
def assignmentRecords (request : AssignmentRequest) (result : AssignmentResult) :
    List LogRecord :=
  let span := spanOf (.assign request)
  let roles := Text.quotedList request.roles
  if result.accepted then
    [record .info span ("Assigned " ++ roles ++ " to " ++ request.node.uri)]
  else
    [record .warn span
      ("Assignment of " ++ roles ++ " to " ++ request.node.uri ++ " was not accepted")]

theorem source_assignmentRecords (request : AssignmentRequest) (result : AssignmentResult) :
    ∀ r ∈ assignmentRecords request result, r.source = .client := by
  unfold assignmentRecords
  split <;> simp

/-- Sends an assignment. -/
def assign (client : Client) (request : AssignmentRequest) (network : Network) :
    Outcome Network AssignmentResult :=
  interpret
    (client.execute .assignRole (spanOf (.assign request)) (Wire.assignmentBody request) network)
    (fun envelope => .ok (Wire.classify envelope)) (assignmentRecords request)
    (source_assignmentRecords request)

/-- The client as a control plane, whose state is the network. -/
def plane (client : Client) : ControlPlane Network where
  endpoint := client.settings.endpoint
  probe := client.probe
  servers := client.servers
  clusterState := client.clusterState
  assign := client.assign

end Client

end ClusterBootstrap
