import ClusterBootstrap.Proofs.Client.Faults
import ClusterBootstrap.Proofs.Client.Requests
import ClusterBootstrap.Proofs.Json.Wording

/-!
# How errors of calls are worded

What is told of an error ends with the response that came with it or else with its message, and both may
hold texts of the control plane.  But no error of a call ends with one, as long as a connection can be
made: every message goes on with a text, a number or a bracket of its own.
-/

namespace ClusterBootstrap

open Net
open Text (EndsOtherwise endsOtherwise_seconds endsOtherwise_toString)

/-! ## Errors -/

/-- What is told last of an error: the response that came with it, or else its message. -/
def BootstrapError.closing (e : BootstrapError) : String :=
  (e.payload?.map Json.pretty).getD e.message

/-- What is told last of an error cannot be taken for a success. -/
def BootstrapError.ToldApart (e : BootstrapError) : Prop :=
  EndsOtherwise e.closing

variable {e : BootstrapError}

/-- The response that comes with an error ends like every printed value. -/
theorem toldApart_of_message (hMessage : EndsOtherwise e.message) : e.ToldApart := by
  unfold BootstrapError.ToldApart BootstrapError.closing
  cases e.payload? with
  | none => exact hMessage
  | some payload => exact Json.endsOtherwise_render _ _ payload

theorem toldApart_rejected (roles : List String) (uri : String) (envelope : Json) :
    (BootstrapError.rejected roles uri envelope).ToldApart :=
  Json.endsOtherwise_render _ _ envelope

theorem toldApart_missingData (operation : String) (envelope : Json) :
    (BootstrapError.missingData operation envelope).ToldApart :=
  Json.endsOtherwise_render _ _ envelope

theorem toldApart_malformed (operation : String) {message : String}
    (hMessage : EndsOtherwise message) : (BootstrapError.malformed operation message).ToldApart :=
  toldApart_of_message (hMessage.append _)

theorem toldApart_transport (endpoint : String) {message : String}
    (hMessage : EndsOtherwise message) : (BootstrapError.transport endpoint message).ToldApart :=
  toldApart_of_message (hMessage.append _)

theorem toldApart_unreachable (endpoint : String) {message : String}
    (hMessage : EndsOtherwise message) :
    (BootstrapError.unreachable endpoint message).ToldApart :=
  toldApart_of_message (hMessage.append _)

/-! ## Addresses and replies -/

theorem endsOtherwise_unusableText (fault : UrlFault) :
    EndsOtherwise (Client.unusableText fault) := by
  have hFault : EndsOtherwise fault.text := by cases fault <;> decide
  exact hFault.append _

theorem endsOtherwise_unsendableText (url : Url) : EndsOtherwise (Client.unsendableText url) :=
  EndsOtherwise.append (by decide) _

/-- A status is shown with its reason, and no reason is the word. -/
theorem endsOtherwise_status (status : Status) : EndsOtherwise status.text := by
  have hPhrases : ∀ entry ∈ Status.phrases, EndsOtherwise entry.2 := by decide +kernel
  unfold Status.text
  apply EndsOtherwise.append
  cases hPhrase : Status.phrases.lookup status.code with
  | none => decide
  | some phrase =>
    obtain ⟨before, after, hEq, -⟩ := List.lookup_eq_some_iff.mp hPhrase
    have hMem : (status.code, phrase) ∈ Status.phrases := by simp [hEq]
    exact hPhrases _ hMem

/-- Where connections can be made, a request that is made is sent. -/
theorem exists_sent_of_made {client : Client} {network : Network} {address : String}
    {body : Option String} {url : Url} {exchange : Exchange} (hObstacle : network.obstacle = none)
    (hMade : (client.attempt address body network).1 = .made url exchange) :
    ∃ reply, exchange = .sent reply := by
  unfold Client.attempt at hMade
  cases hParse : Url.parse address with
  | error fault => rw [hParse] at hMade; cases hMade
  | ok parsed =>
    simp only [hParse] at hMade
    split at hMade
    · simp only [Network.exchange, hObstacle] at hMade
      cases hReplies : network.replies with
      | nil =>
        rw [hReplies] at hMade
        cases hMade
        exact ⟨_, rfl⟩
      | cons reply rest =>
        rw [hReplies] at hMade
        cases hMade
        exact ⟨_, rfl⟩
    · cases hMade

variable {client : Client} {network : Network}

/-! ## The probe -/

theorem toldApart_probeAnswer {attempt : Client.Attempt}
    (hSent : ∀ url exchange, attempt = .made url exchange → ∃ reply, exchange = .sent reply)
    (hError : client.probeAnswer attempt = .error e) : e.ToldApart := by
  cases attempt with
  | unusable fault =>
    cases hError
    exact toldApart_unreachable _ (endsOtherwise_unusableText fault)
  | unsendable url =>
    cases hError
    exact toldApart_unreachable _ (endsOtherwise_unsendableText url)
  | made url exchange =>
    obtain ⟨reply, rfl⟩ := hSent url exchange rfl
    cases reply with
    | dropped =>
      cases hError
      have hDropped : EndsOtherwise Client.droppedText := by decide
      exact toldApart_unreachable _ (hDropped.append _)
    | silent =>
      cases hError
      have hSeconds := endsOtherwise_seconds client.settings.probeTimeout.toNat
      have hMessage := hSeconds.append "no answer within "
      rw [← String.append_assoc] at hMessage
      exact toldApart_unreachable _ hMessage
    | answered status body completion =>
      simp only [Client.probeAnswer] at hError
      split at hError
      · cases hError
      · cases hError
        exact toldApart_unreachable _ ((endsOtherwise_status status).append _)

theorem toldApart_probe (hObstacle : network.obstacle = none)
    (hError : (client.probe network).answer = .error e) : e.ToldApart := by
  rw [(probe_eq client network).1] at hError
  have hVerdict := map_eq_error_iff.mp hError
  exact toldApart_probeAnswer (fun _ _ hMade => exists_sent_of_made hObstacle hMade) hVerdict

/-! ## Operations -/

theorem toldApart_completeAnswer {attempt : Client.Attempt}
    (hSent : ∀ url exchange, attempt = .made url exchange → ∃ reply, exchange = .sent reply)
    (hError : client.completeAnswer attempt = .error e) : e.ToldApart := by
  cases attempt with
  | unusable fault =>
    cases hError
    exact toldApart_transport _ (endsOtherwise_unusableText fault)
  | unsendable url =>
    cases hError
    exact toldApart_transport _ (endsOtherwise_unsendableText url)
  | made url exchange =>
    obtain ⟨reply, rfl⟩ := hSent url exchange rfl
    have hTimedOut : EndsOtherwise "operation timed out" := by decide
    cases reply with
    | dropped =>
      cases hError
      have hDropped : EndsOtherwise Client.droppedText := by decide
      exact toldApart_transport _ (hDropped.append _)
    | silent =>
      cases hError
      exact toldApart_transport _ ((hTimedOut.append _).append _)
    | answered status body completion =>
      cases completion with
      | whole => cases hError
      | cutShort =>
        cases hError
        have hBroken : EndsOtherwise
            "error reading a body from connection: end of file before message length reached" := by
          decide
        exact toldApart_transport _ (hBroken.append _)
      | stalled =>
        cases hError
        exact toldApart_transport _ ((hTimedOut.append _).append _)

/-- A document that cannot be read is told with the place where reading it stopped. -/
theorem toldApart_envelopeOf {operation : Wire.Operation} {status : Status} {body : List UInt8}
    (hError : Client.envelopeOf operation status body = .error e) : e.ToldApart := by
  obtain ⟨fault, -, rfl⟩ := mapError_eq_error_iff.mp hError
  have hPlace : EndsOtherwise fault.text := (endsOtherwise_toString fault.column).append _
  exact toldApart_malformed _ (hPlace.append _)

theorem toldApart_interpret {α : Type} {decode : Json → Except BootstrapError α}
    {records : α → List LogRecord} {hRecords : ∀ a, ∀ r ∈ records a, r.source = .client}
    {operation : Wire.Operation} {span : Log.Span} {body : String}
    (hObstacle : network.obstacle = none)
    (hDecode : ∀ envelope d, decode envelope = .error d → d.ToldApart)
    (hError : (Client.interpret (client.execute operation span body network) decode records
      hRecords).answer = .error e) : e.ToldApart := by
  rcases interpret_error_cases hError with hComplete | ⟨status, bytes, hText⟩ | ⟨envelope, -, hMeaning⟩
  · exact toldApart_completeAnswer (fun _ _ hMade => exists_sent_of_made hObstacle hMade) hComplete
  · exact toldApart_envelopeOf hText
  · exact hDecode envelope e hMeaning

theorem toldApart_decodeData {α : Type} {operation : Wire.Operation} {decode : Json.Decoder α}
    {envelope : Json} (hDecode : Json.Worded decode)
    (hError : Wire.decodeData operation decode envelope = .error e) : e.ToldApart := by
  unfold Wire.decodeData at hError
  split at hError
  · cases hError
    exact toldApart_missingData _ envelope
  next data _ =>
    obtain ⟨fault, hFault, rfl⟩ := mapError_eq_error_iff.mp hError
    exact toldApart_malformed _ (hDecode data fault hFault)

/-! ## The two queries -/

section

open Json (worded_bool worded_list worded_option worded_string worded_uint64)
open Json.Fields (worded_defaulted worded_record worded_required)

theorem worded_decodeReplicasetRef : Json.Worded Wire.decodeReplicasetRef := by
  have hUuid := worded_defaulted (worded_option worded_string) "uuid" none
  exact worded_record (by decide) (hUuid.map id) 1

theorem worded_decodeServer : Json.Worded Wire.decodeServer := by
  have hText (name : String) := worded_defaulted (worded_option worded_string) name none
  have hReplicaset :=
    worded_defaulted (worded_option worded_decodeReplicasetRef) "replicaset" none
  refine worded_record (by decide) ?_ 6
  exact ((((((worded_required worded_string "uri").map _).seq (hText "alias")).seq
    (hText "status")).seq (hText "uuid")).seq (hText "message")).seq hReplicaset

theorem worded_decodeServerList : Json.Worded Wire.decodeServerList := by
  have hServers := worded_required (worded_list worded_decodeServer) "serverList"
  exact worded_record (by decide) (hServers.map id) 1

theorem worded_decodeSelf : Json.Worded Wire.decodeSelf := by
  have hText (name : String) := worded_defaulted (worded_option worded_string) name none
  exact worded_record (by decide) (((hText "uri").map _).seq (hText "uuid")) 2

theorem worded_decodeFailover : Json.Worded Wire.decodeFailover := by
  intro json fault hError
  unfold Wire.decodeFailover at hError
  split at hError
  · cases hError
  · cases hError
  · cases hError
    decide

theorem worded_decodeCluster : Json.Worded Wire.decodeCluster := by
  have hSelf := worded_defaulted (worded_option worded_decodeSelf) "self" none
  have hFailover := worded_defaulted (worded_option worded_decodeFailover) "failover" none
  have hRoles := worded_defaulted (worded_list worded_string) "known_roles" []
  have hBootstrap := worded_defaulted worded_bool "can_bootstrap_vshard" false
  have hBuckets := worded_defaulted worded_uint64 "vshard_bucket_count" 0
  refine worded_record (by decide) ?_ 5
  exact ((((hSelf.map _).seq hFailover).seq hRoles).seq hBootstrap).seq hBuckets

theorem worded_decodeClusterData : Json.Worded Wire.decodeClusterData := by
  have hCluster := worded_defaulted (worded_option worded_decodeCluster) "cluster" none
  exact worded_record (by decide) (hCluster.map id) 1

end

theorem toldApart_decodeClusterState {envelope : Json}
    (hError : Wire.decodeClusterState envelope = .error e) : e.ToldApart := by
  rcases bind_eq_error_iff.mp hError with hData | ⟨state?, -, hNone⟩
  · exact toldApart_decodeData worded_decodeClusterData hData
  · cases state? with
    | none =>
      cases hNone
      exact toldApart_missingData _ envelope
    | some state => cases hNone

/-! ## Every call -/

theorem toldApart_servers (hObstacle : network.obstacle = none)
    (hError : (client.servers network).answer = .error e) : e.ToldApart :=
  toldApart_interpret hObstacle (fun _ _ => toldApart_decodeData worded_decodeServerList) hError

theorem toldApart_clusterState (hObstacle : network.obstacle = none)
    (hError : (client.clusterState network).answer = .error e) : e.ToldApart :=
  toldApart_interpret hObstacle (fun _ _ => toldApart_decodeClusterState) hError

/-- An envelope is judged whatever it holds, so that only the way to it can fail. -/
theorem toldApart_assign {request : AssignmentRequest} (hObstacle : network.obstacle = none)
    (hError : (client.assign request network).answer = .error e) : e.ToldApart :=
  toldApart_interpret hObstacle (fun _ _ hClassified => by cases hClassified) hError

end ClusterBootstrap
