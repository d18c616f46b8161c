import ClusterBootstrap.Proofs.Json.Produced
import ClusterBootstrap.Proofs.Output
import ClusterBootstrap.Proofs.Run.Coherence
import ClusterBootstrap.Proofs.Run.Requests

/-!
# The response that comes with an error

An error that comes of what the control plane has said carries the whole response.  Between the reply
and the printed report the response passes through the call, the error and the printer, and nothing of
it is lost or changed.
-/

namespace ClusterBootstrap

open Net

variable {settings : BootstrapSettings} {replies : List Reply} {client : Client}
  {network : Network} {e : BootstrapError} {payload : Json}

/-! ## Calls that are answered -/

/-- Only to an address that can be used a request is made. -/
theorem usable_of_made {address : String} {body : Option String} {url : Url}
    {exchange : Exchange}
    (hMade : (client.attempt address body network).1 = .made url exchange) :
    Url.Usable address := by
  unfold Client.attempt at hMade
  cases hParse : Url.parse address with
  | error fault =>
    rw [hParse] at hMade
    contradiction
  | ok parsed =>
    rw [hParse] at hMade
    refine ⟨parsed, hParse, ?_⟩
    cases hSendable : parsed.isSendable with
    | false => simp [hSendable] at hMade
    | true => rfl

theorem exists_made_of_probeAnswer {attempt : Client.Attempt} {status : Status}
    (hVerdict : client.probeAnswer attempt = .ok status) :
    ∃ url exchange, attempt = .made url exchange := by
  cases attempt with
  | unusable fault => cases hVerdict
  | unsendable url => cases hVerdict
  | made url exchange => exact ⟨url, exchange, rfl⟩

theorem exists_made_of_completeAnswer {attempt : Client.Attempt} {answer : Status × List UInt8}
    (hComplete : client.completeAnswer attempt = .ok answer) :
    ∃ url exchange, attempt = .made url exchange := by
  cases attempt with
  | unusable fault => cases hComplete
  | unsendable url => cases hComplete
  | made url exchange => exact ⟨url, exchange, rfl⟩

theorem usable_of_probe (hAnswer : (client.probe network).answer = .ok ()) :
    Url.Usable client.settings.probeUrl := by
  rw [(probe_eq client network).1] at hAnswer
  obtain ⟨status, hVerdict, -⟩ := map_eq_ok_iff.mp hAnswer
  obtain ⟨url, exchange, hMade⟩ := exists_made_of_probeAnswer hVerdict
  exact usable_of_made hMade

theorem usable_of_execute {operation : Wire.Operation} {span : Log.Span} {body : String}
    (hAnswer : (client.execute operation span body network).answer = .ok payload) :
    Url.Usable client.settings.apiUrl := by
  rw [(execute_eq ..).1] at hAnswer
  obtain ⟨answer, hComplete, -⟩ := bind_eq_ok_iff.mp hAnswer
  obtain ⟨url, exchange, hMade⟩ := exists_made_of_completeAnswer hComplete
  exact usable_of_made hMade

theorem Probed.usable (hProbed : Probed client.plane settings network) :
    Url.Usable client.settings.probeUrl := by
  have hProbe := hProbed.probe
  rw [probed_plane] at hProbe
  exact usable_of_probe hProbe

/-- A run that has listed servers has sent requests to both addresses. -/
theorem Listed.usable {nodes : List Node} (hListed : Listed client.plane settings network nodes) :
    Url.Usable client.settings.probeUrl ∧ Url.Usable client.settings.apiUrl := by
  have hServers := hListed.servers
  rw [listed_plane, Client.servers, (interpret_eq ..).1] at hServers
  obtain ⟨envelope, hEnvelope, -⟩ := bind_eq_ok_iff.mp hServers
  exact ⟨hListed.toProbed.usable, usable_of_execute hEnvelope⟩

/-- What answers an operation, after these calls, is what the reply to it carries. -/
theorem carries_of_execute
    (hProbe : (client.plane.probed (.ofReplies replies)).answer = .ok ()) {calls : List Call}
    {operation : Wire.Operation} {span : Log.Span} {body : String}
    (hAnswer : (client.execute operation span body
      (calls.foldl client.plane.after (.ofReplies replies))).answer = .ok payload) :
    Carries replies calls.length payload ∧
      ∀ later : List Call, Network.Spent replies later.length
        (later.foldl client.plane.after (.ofReplies replies)) := by
  rw [probed_plane] at hProbe
  obtain ⟨probeUrl, hProbeUrl, hProbeSendable⟩ := usable_of_probe hProbe
  obtain ⟨apiUrl, hApiUrl, hApiSendable⟩ := usable_of_execute hAnswer
  let addresses : Addresses client.settings :=
    ⟨probeUrl, apiUrl, hProbeUrl, hApiUrl, hProbeSendable, hApiSendable⟩
  have hSpent (later : List Call) : Network.Spent replies later.length
      (later.foldl client.plane.after (.ofReplies replies)) := by
    have hServed := (served_ofReplies replies).foldl_after addresses later
    simpa using hServed.toSpent
  obtain ⟨hCarries, -⟩ := (hSpent calls).execute addresses.usable_api operation span body
  exact ⟨(hCarries payload).mp hAnswer, hSpent⟩

/-! ## Errors with a response -/

/-- A decoder whose errors show nothing but the envelope that it reads. -/
def Shows {α : Type} (decode : Json → Except BootstrapError α) : Prop :=
  ∀ envelope e payload, decode envelope = .error e → e.payload? = some payload →
    payload = envelope

/-- A decoder that takes everything has no errors to show anything. -/
theorem shows_ok {α : Type} (f : Json → α) : Shows fun envelope => .ok (f envelope) := by
  intro envelope e payload hError
  cases hError

theorem shows_decodeData {α : Type} (operation : Wire.Operation) (decode : Json.Decoder α) :
    Shows (Wire.decodeData operation decode) := by
  intro envelope e payload hError hPayload
  unfold Wire.decodeData at hError
  split at hError
  · cases hError
    exact (Option.some.inj hPayload).symm
  · obtain ⟨fault, -, rfl⟩ := mapError_eq_error_iff.mp hError
    contradiction

theorem shows_decodeClusterState : Shows Wire.decodeClusterState := by
  intro envelope e payload hError hPayload
  rcases bind_eq_error_iff.mp hError with hData | ⟨state?, -, hNone⟩
  · exact shows_decodeData _ _ envelope e payload hData hPayload
  · cases state? with
    | none =>
      cases hNone
      exact (Option.some.inj hPayload).symm
    | some state => contradiction

/-- A response that comes with the error of a call is the envelope of its answer. -/
theorem execute_of_payload {α : Type} {decode : Json → Except BootstrapError α}
    {records : α → List LogRecord} {hRecords : ∀ a, ∀ r ∈ records a, r.source = .client}
    {operation : Wire.Operation} {span : Log.Span} {body : String} (hShows : Shows decode)
    (hError : (Client.interpret (client.execute operation span body network) decode records
      hRecords).answer = .error e)
    (hPayload : e.payload? = some payload) :
    (client.execute operation span body network).answer = .ok payload := by
  -- neither a reply that does not arrive nor one that is no document shows a response
  rcases interpret_error_cases hError with hComplete | ⟨status, bytes, hText⟩ |
    ⟨envelope, hEnvelope, hMeaning⟩
  · obtain ⟨message, rfl⟩ := exists_transport_of_completeAnswer hComplete
    cases hPayload
  · obtain ⟨fault, -, rfl⟩ := mapError_eq_error_iff.mp hText
    cases hPayload
  · rw [hShows envelope e payload hMeaning hPayload]
    exact hEnvelope

theorem payload?_of_locate {nodes : List Node} {state : ClusterState} {policy : FallbackPolicy}
    (hLocation : locate nodes state policy = .error e) : e.payload? = none := by
  unfold locate at hLocation
  split at hLocation
  · contradiction
  · split at hLocation
    · cases hLocation; rfl
    · contradiction
    · cases hLocation; rfl

theorem payload?_of_checkKnown {roles : List String} {state : ClusterState}
    (hRoles : checkKnown roles state = .error e) : e.payload? = none := by
  unfold checkKnown at hRoles
  split at hRoles
  · cases hRoles; rfl
  · contradiction

/-- The response that comes with the error of a run is what the last reply to it carries. -/
theorem exists_carries_of_payload
    (hError : (bootstrap client.plane settings (.ofReplies replies)).report.error = some e)
    (hPayload : e.payload? = some payload) :
    ∃ n, Network.Spent replies (n + 1)
        (bootstrap client.plane settings (.ofReplies replies)).plane ∧
      Carries replies n payload := by
  obtain ⟨hProbe, hServers, hState⟩ :=
    foldl_after_readCalls client.plane (Network.ofReplies replies)
  obtain ⟨result, p, hCourse⟩ := exists_course client.plane settings (.ofReplies replies)
  rw [plane_bootstrap, hCourse.calls_eq]
  rw [hCourse.bootstrap_eq] at hError
  -- a response comes with the error of a query, or with an assignment that is not accepted
  cases hCourse with
  | refused hFault => cases hError; cases hPayload
  | unreachable hValid hAnswer =>
    cases hError
    rw [probed_plane] at hAnswer
    obtain ⟨message, rfl⟩ := probe_eq_error hAnswer
    cases hPayload
  | unlisted hProbed hAnswer =>
    cases hError
    rw [listed_plane, ← hProbe] at hAnswer
    obtain ⟨hCarries, hSpent⟩ :=
      carries_of_execute hProbed.probe (execute_of_payload (shows_decodeData _ _) hAnswer hPayload)
    exact ⟨1, hSpent [.probe, .servers], hCarries⟩
  | unobserved hListed hAnswer =>
    cases hError
    rw [observed_plane, ← hServers] at hAnswer
    obtain ⟨hCarries, hSpent⟩ :=
      carries_of_execute hListed.probe (execute_of_payload shows_decodeClusterState hAnswer hPayload)
    exact ⟨2, hSpent readCalls, hCarries⟩
  | unlocated hObserved hLocation =>
    cases hError
    rw [payload?_of_locate hLocation] at hPayload
    cases hPayload
  | unknownRole hChosen hRoles =>
    cases hError
    rw [payload?_of_checkKnown hRoles] at hPayload
    cases hPayload
  | @unanswered _ _ _ _ request hRequested hAnswer =>
    cases hError
    rw [assigned_plane, ← hState] at hAnswer
    obtain ⟨hCarries, hSpent⟩ :=
      carries_of_execute hRequested.probe (execute_of_payload (shows_ok _) hAnswer hPayload)
    have hLast := hSpent (readCalls ++ [Call.assign request])
    exact ⟨3, hLast, hCarries⟩
  | @rejected _ _ _ request _ hRequested hAnswer hRejected =>
    cases hError
    obtain rfl := Option.some.inj hPayload
    rw [assigned_plane, ← hState, Client.assign, (interpret_eq ..).1] at hAnswer
    obtain ⟨envelope, hEnvelope, hClassified⟩ := bind_eq_ok_iff.mp hAnswer
    cases hClassified
    obtain ⟨hCarries, hSpent⟩ := carries_of_execute hRequested.probe hEnvelope
    have hLast := hSpent (readCalls ++ [Call.assign request])
    exact ⟨3, hLast, hCarries⟩
  | completed hCompletes => cases hError

/-! ## The printed report -/

/-- A failure is told by the line `fail`, the message of its error, and what came with it. -/
def failureText (e : BootstrapError) : String :=
  "fail\n" ++ e.message ++ "\n" ++ Report.unlines (e.payload?.map Json.pretty).toList

/-- What is printed of a run that fails: the servers, the chosen node, and then the failure. -/
theorem unlines_lines_of_failed {report : Report} (hPhase : report.phase = .failed)
    (hError : report.error = some e) :
    Report.unlines report.lines =
      Report.unlines (report.serverLines ++ report.bootstrapLines) ++ failureText e := by
  have hOutcome : report.outcomeLines =
      "fail" :: e.message :: (e.payload?.map Json.pretty).toList := by
    simp [Report.outcomeLines, Report.isSuccess, hPhase, hError, Report.errorLines]
  rw [Report.lines, unlines_append, hOutcome, unlines_cons, unlines_cons, failureText]
  simp only [String.append_assoc]
  rfl

/-- A run that fails prints what it has learned, the failure, and then the response that came with its
error, if there is one.  That response is what the last reply to the run carries, and unless it has
floating-point numbers it is read again from its printed text. -/
theorem connect_payload {progress : Progress Network}
    (hRun : connect settings (.ofReplies replies) = .ok progress)
    (hError : progress.report.error = some e) :
    let printed := (Output.putLines progress.report.lines).run .unlimited
    let told := Report.unlines (progress.report.serverLines ++ progress.report.bootstrapLines) ++
      "fail\n" ++ e.message ++ "\n"
    printed.1 = .ok () ∧
      (e.payload? = none → printed.2.text = told) ∧
      ∀ payload, e.payload? = some payload →
        (∃ n, Network.Spent replies (n + 1) progress.plane ∧ Carries replies n payload) ∧
        printed.2.text = told ++ payload.pretty ++ "\n" ∧
        (Json.Integral payload → Json.parse payload.pretty = .ok payload) := by
  intro printed told
  obtain ⟨client, -, -, hReport, hPlane⟩ := exists_client_of_connect hRun
  obtain ⟨_, _, hCourse⟩ := exists_course client.plane settings (.ofReplies replies)
  have hCoherent := hCourse.coherent
  rw [← hReport] at hCoherent
  have hFailed : progress.report.phase = .failed :=
    hCoherent.failed_iff_error.mpr (by rw [hError]; rfl)
  obtain ⟨hTaken, hText⟩ := Output.run_putLines_unlimited progress.report.lines
  rw [unlines_lines_of_failed hFailed hError, failureText] at hText
  refine ⟨hTaken, fun hNone => ?_, fun payload hPayload => ?_⟩
  · show printed.2.text = told
    rw [hText, hNone]
    simp [told, String.append_assoc]
  · rw [hReport] at hError
    obtain ⟨n, hSpent, hCarries⟩ := exists_carries_of_payload hError hPayload
    have hBody := hCarries
    obtain ⟨status, body, -, hParse⟩ := hBody
    refine ⟨⟨n, hPlane ▸ hSpent, hCarries⟩, ?_, Json.parse_pretty_of_parseBytes hParse⟩
    show printed.2.text = told ++ payload.pretty ++ "\n"
    rw [hText, hPayload]
    simp [told, String.append_assoc]

/-- A control plane that answers, but with an empty list of errors and nothing else. -/
def bareReplies : List Reply :=
  ["", "\x7b\"errors\":[]\x7d"].map fun text => .answered .ok (Json.bytesOf text) .whole

/-- Its answer is shown as it came. -/
theorem connect_bareReplies :
    ∃ progress e payload, connect .default (.ofReplies bareReplies) = .ok progress ∧
      progress.report.error = some e ∧ e.payload? = some payload ∧
      ∃ n, Network.Spent bareReplies (n + 1) progress.plane ∧ Carries bareReplies n payload := by
  have hComputed : (connect .default (.ofReplies bareReplies)).toOption.any
      (fun p => (p.report.error.bind BootstrapError.payload?).isSome) = true := by
    decide +kernel
  cases hRun : connect .default (.ofReplies bareReplies) with
  | error e =>
    rw [hRun] at hComputed
    contradiction
  | ok progress =>
    rw [hRun] at hComputed
    obtain ⟨payload, hSome⟩ := Option.isSome_iff_exists.mp hComputed
    obtain ⟨e, hError, hPayload⟩ := Option.bind_eq_some_iff.mp hSome
    obtain ⟨-, -, hShown⟩ := connect_payload hRun hError
    exact ⟨progress, e, payload, rfl, hError, hPayload, (hShown payload hPayload).1⟩

end ClusterBootstrap
