import ClusterBootstrap.Proofs.Run.Success
import Mathlib.Data.Finset.Card

/-!
# Servers that are listed again

The list of servers is taken as it is told, and a uri that comes again is only warned of.  One pass over
the list finds these, and at every place of it the uris that were seen are those of the servers before.
So the warnings can be counted: one for each server that brings no new uri.
-/

namespace ClusterBootstrap

open Net

/-! ## Uris that come again -/

/-- Wherever the pass stands, it has seen the uris of the servers that it has passed, and goes on to those
whose uri is among them. -/
theorem repeatedUris_eq_of_seen {passed : List Node} {seen : List String}
    (hSeen : ∀ uri, uri ∈ seen ↔ uri ∈ passed.map Node.uri) (nodes : List Node) :
    Client.repeatedUris seen nodes =
      ((nodes.zipIdx passed.length).filter fun entry =>
        decide (entry.1.uri ∈ ((passed ++ nodes).map Node.uri).take entry.2)).map
          fun entry => entry.1.uri := by
  -- on the servers that are left, with one more passed at each of them
  induction nodes generalizing passed seen with
  | nil => rfl
  | cons node nodes ih =>
    have hPassed : passed ++ node :: nodes = (passed ++ [node]) ++ nodes := by simp
    have hLength : passed.length + 1 = (passed ++ [node]).length := by simp
    have hHere : node.uri ∈ ((passed ++ node :: nodes).map Node.uri).take passed.length ↔
        node.uri ∈ seen := by
      rw [List.map_append, List.take_left' (List.length_map _), hSeen]
    rw [Client.repeatedUris, List.zipIdx_cons, List.filter_cons]
    dsimp only
    by_cases hMem : node.uri ∈ seen
    · have hNext : ∀ uri, uri ∈ seen ↔ uri ∈ (passed ++ [node]).map Node.uri := by
        intro uri
        rw [List.map_append, List.mem_append, ← hSeen]
        exact (or_iff_left_of_imp fun hUri => List.mem_singleton.mp hUri ▸ hMem).symm
      rw [if_pos hMem, if_pos (decide_eq_true (hHere.mpr hMem)), List.map_cons, ih hNext, hPassed,
        hLength]
    · have hNext : ∀ uri, uri ∈ node.uri :: seen ↔ uri ∈ (passed ++ [node]).map Node.uri := by
        intro uri
        rw [List.map_append, List.mem_append, ← hSeen, List.mem_cons, or_comm]
        exact or_congr_right List.mem_singleton.symm
      have hNot : ¬ decide (node.uri ∈
          ((passed ++ node :: nodes).map Node.uri).take passed.length) = true := by
        rw [decide_eq_true_eq, hHere]
        exact hMem
      rw [if_neg hMem, if_neg hNot, ih hNext, hPassed, hLength]

/-- The uris that come again are those of the servers that have the uri of an earlier one, place by
place. -/
theorem repeatedUris_eq (nodes : List Node) :
    Client.repeatedUris [] nodes =
      (nodes.zipIdx.filter fun entry =>
        decide (entry.1.uri ∈ (nodes.map Node.uri).take entry.2)).map fun entry => entry.1.uri := by
  have hStart : ∀ uri, uri ∈ ([] : List String) ↔ uri ∈ ([] : List Node).map Node.uri :=
    fun _ => Iff.rfl
  exact repeatedUris_eq_of_seen hStart nodes

/-- Each server brings a new uri or is one that comes again. -/
theorem length_repeatedUris_of_seen (seen : List String) (nodes : List Node) :
    (Client.repeatedUris seen nodes).length + (seen ++ nodes.map Node.uri).toFinset.card =
      nodes.length + seen.toFinset.card := by
  induction nodes generalizing seen with
  | nil => simp [Client.repeatedUris]
  | cons node nodes ih =>
    have hSame : (seen ++ (node :: nodes).map Node.uri).toFinset =
        (node.uri :: seen ++ nodes.map Node.uri).toFinset :=
      List.toFinset_eq_of_perm _ _ List.perm_middle
    rw [Client.repeatedUris]
    by_cases hMem : node.uri ∈ seen
    · have hSeen : (node.uri :: seen).toFinset = seen.toFinset := by simp [hMem]
      have hAll : (seen ++ (node :: nodes).map Node.uri).toFinset =
          (seen ++ nodes.map Node.uri).toFinset := by
        rw [hSame, List.toFinset_append, hSeen, List.toFinset_append]
      have hRest := ih seen
      rw [if_pos hMem, hAll, List.length_cons, List.length_cons]
      omega
    · have hSeen : (node.uri :: seen).toFinset.card = seen.toFinset.card + 1 := by
        rw [List.toFinset_cons, Finset.card_insert_of_notMem (by simpa using hMem)]
      have hRest := ih (node.uri :: seen)
      rw [if_neg hMem, hSame, List.length_cons]
      omega

theorem length_repeatedUris (nodes : List Node) :
    (Client.repeatedUris [] nodes).length + (nodes.map Node.uri).toFinset.card = nodes.length :=
  length_repeatedUris_of_seen [] nodes

theorem repeatedUris_eq_nil_iff (nodes : List Node) :
    Client.repeatedUris [] nodes = [] ↔ (nodes.map Node.uri).Nodup := by
  have hCount := length_repeatedUris nodes
  have hNodup : (nodes.map Node.uri).toFinset.card = nodes.length ↔
      (nodes.map Node.uri).Nodup := by
    simpa using Multiset.toFinset_card_eq_card_iff_nodup
      (m := (nodes.map Node.uri : Multiset String))
  rw [← List.length_eq_zero_iff, ← hNodup]
  omega

/-! ## The log of a query -/

variable {client : Client} {network : Network} {status : Status} {body : List UInt8}
  {envelope : Json}

/-- A complete answer that can be read is logged once. -/
theorem execute_of_whole (hUsable : Url.Usable client.settings.apiUrl)
    (hReply : network.upcoming = .sent (.answered status body .whole))
    (hText : Json.parseBytes body = .ok envelope) (operation : Wire.Operation) (span : Log.Span)
    (document : String) :
    (client.execute operation span document network).answer = .ok envelope ∧
      (client.execute operation span document network).log =
        [Client.record .debug span
          (operation.name ++ " -> HTTP " ++ status.text ++ ": " ++ envelope.compact)] := by
  obtain ⟨url, hMade⟩ := exists_attempt_eq client hUsable
  have hAttempt := hMade network (some document)
  have hEnvelope : Client.envelopeOf operation status body = .ok envelope :=
    envelopeOf_eq_ok_iff.mpr hText
  rw [hReply] at hAttempt
  unfold Client.execute
  -- the request is named before what comes of it, so that the address is not parsed again
  revert hAttempt
  rcases client.attempt client.settings.apiUrl (some document) network with ⟨attempt, next⟩
  intro hAttempt
  dsimp only at hAttempt ⊢
  rw [hAttempt]
  simp only [Client.completeAnswer, hEnvelope, and_self]

/-- What an answer means is told behind what was logged about it. -/
theorem interpret_of_decode {α : Type} {outcome : Outcome Network Json} {a : α}
    {decode : Json → Except BootstrapError α} {records : α → List LogRecord}
    {hRecords : ∀ a, ∀ r ∈ records a, r.source = .client} (hAnswer : outcome.answer = .ok envelope)
    (hDecode : decode envelope = .ok a) :
    (Client.interpret outcome decode records hRecords).answer = .ok a ∧
      (Client.interpret outcome decode records hRecords).log = outcome.log ++ records a := by
  obtain ⟨answer, log, next, hSource⟩ := outcome
  dsimp only at hAnswer
  subst hAnswer
  simp only [Client.interpret, hDecode, and_self]

/-! ## Every list of servers -/

/-- Whatever servers a reply lists, they are answered as they are listed, and logged are the reply, then a
warning for each place whose uri an earlier place has already, in order, and at last how many servers
there are.  So there are as many warnings as servers that bring no new uri, and none exactly if all uris
are distinct. -/
theorem servers_repeats_warned {nodes : List Node} (hUsable : Url.Usable client.settings.apiUrl)
    (hReply : network.upcoming = .sent (.answered status body .whole))
    (hText : Json.parseBytes body = .ok envelope)
    (hNodes : Wire.decodeServers envelope = .ok nodes) :
    let span : Log.Span := { name := "get_servers" }
    let repeats := nodes.zipIdx.filter fun entry =>
      decide (entry.1.uri ∈ (nodes.map Node.uri).take entry.2)
    let warnings := repeats.map fun entry =>
      Client.record .warn span ("Control plane listed uri " ++ entry.1.uri ++ " more than once")
    (client.servers network).answer = .ok nodes ∧
      (client.servers network).log =
        Client.record .debug span
            ("getServers -> HTTP " ++ status.text ++ ": " ++ envelope.compact) ::
          (warnings ++
            [Client.record .info span ("Discovered " ++ toString nodes.length ++ " servers")]) ∧
      (client.servers network).log.filter (fun r => r.level = .warn) = warnings ∧
      warnings.length + (nodes.map Node.uri).toFinset.card = nodes.length ∧
      (warnings = [] ↔ (nodes.map Node.uri).Nodup) := by
  intro span repeats warnings
  have hRepeats : Client.repeatedUris [] nodes = repeats.map fun entry => entry.1.uri :=
    repeatedUris_eq nodes
  have hWarnings : warnings = (Client.repeatedUris [] nodes).map fun uri =>
      Client.record .warn span ("Control plane listed uri " ++ uri ++ " more than once") := by
    rw [hRepeats, List.map_map]
    rfl
  obtain ⟨hEnvelope, hExecuted⟩ := execute_of_whole hUsable hReply hText .getServers
    (Client.spanOf .servers) Wire.serversBody
  obtain ⟨hAnswer, hLog⟩ : (client.servers network).answer = .ok nodes ∧
      (client.servers network).log = _ ++ Client.serversRecords nodes :=
    interpret_of_decode hEnvelope hNodes
  have hWritten : (client.servers network).log =
      Client.record .debug span
          ("getServers -> HTTP " ++ status.text ++ ": " ++ envelope.compact) ::
        (warnings ++
          [Client.record .info span ("Discovered " ++ toString nodes.length ++ " servers")]) := by
    rw [hLog, hExecuted, hWarnings]
    rfl
  refine ⟨hAnswer, hWritten, ?_, ?_, ?_⟩
  · have hAll : warnings.filter (fun r => r.level = .warn) = warnings := by
      rw [List.filter_eq_self]
      intro r hMem
      obtain ⟨_, -, rfl⟩ := List.mem_map.mp hMem
      rfl
    rw [hWritten, List.filter_cons_of_neg (by simp [Client.record]), List.filter_append, hAll]
    simp [Client.record]
  · rw [hWarnings, List.length_map]
    exact length_repeatedUris nodes
  · rw [hWarnings, List.map_eq_nil_iff]
    exact repeatedUris_eq_nil_iff nodes

/-- A uri that is listed three times is warned of twice, wherever others stand between. -/
theorem servers_repeats_warned_twice :
    let client : Client := { settings := .default }
    let replies : List Reply := [.answered .ok (Json.bytesOf
      "\x7b\"data\":\x7b\"serverList\":[[\"a:1\"],[\"b:2\"],[\"a:1\"],[\"a:1\"]]\x7d\x7d") .whole]
    let network := Network.ofReplies replies
    Url.Usable client.settings.apiUrl ∧
      (client.servers network).answer = .ok (["a:1", "b:2", "a:1", "a:1"].map .ofUri) ∧
      ((client.servers network).log.filter fun r => r.level = .warn).map LogRecord.text =
        ["Control plane listed uri a:1 more than once",
          "Control plane listed uri a:1 more than once"] := by
  intro client replies network
  have hUsable : Url.Usable client.settings.apiUrl := connectable_default.apiUrl
  have hRead : ∃ envelope, Carries replies 0 envelope ∧
      Wire.decodeServers envelope = .ok (["a:1", "b:2", "a:1", "a:1"].map .ofUri) :=
    exists_carries_of_read rfl (by decide +kernel)
  obtain ⟨envelope, ⟨status, body, hReply, hText⟩, hNodes⟩ := hRead
  have hUpcoming : network.upcoming = .sent (.answered status body .whole) := by
    rw [(spent_ofReplies replies).upcoming_eq, hReply]
    rfl
  obtain ⟨hAnswer, -, hWarned, -, -⟩ := servers_repeats_warned hUsable hUpcoming hText hNodes
  refine ⟨hUsable, hAnswer, ?_⟩
  rw [hWarned]
  decide

end ClusterBootstrap
