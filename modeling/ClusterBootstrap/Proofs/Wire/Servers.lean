import ClusterBootstrap.Proofs.Json.Records
import ClusterBootstrap.Wire.Discovery

/-!
# What a list of servers looks like

The answer of the query for the servers has one grammar, told here without its reader.  The reader accepts
exactly what the grammar derives, and gives the nodes that it tells.
-/

namespace ClusterBootstrap.Wire

open Json (Default Members Nullable Text exists_forall₂_iff exists_members_singleton_iff)
open Json.Fields

/-! ## Grammar -/

/-- The result part of an envelope: the member `data` of an object, unless it is null. -/
def ResultPart (envelope data : Json) : Prop :=
  ∃ members, envelope = .object members ∧ members.lookup "data" = some data ∧ data ≠ .null

/-- A reference to a replicaset, which may say its uuid. -/
def ReplicasetForm (json : Json) (uuid : Option String) : Prop :=
  ∃ members, Members ["uuid"] json members ∧
    Default (Nullable Text) none (members.lookup "uuid") uuid

/-- The fields of a listed server, in their order. -/
def serverFields : List String := ["uri", "alias", "status", "uuid", "message", "replicaset"]

/-- The members of a listed server say what the node is. -/
structure ServerMembers (members : List (String × Json)) (node : Node) : Prop where
  uri : members.lookup "uri" = some (.string node.uri)
  aliasName : Default (Nullable Text) none (members.lookup "alias") node.aliasName
  status : Default (Nullable Text) none (members.lookup "status") node.status
  uuid : Default (Nullable Text) none (members.lookup "uuid") node.uuid
  message : Default (Nullable Text) none (members.lookup "message") node.message
  /-- A node without a reference, and one whose reference says no uuid, belong to no replicaset. -/
  replicaset : ∃ reference,
    Default (Nullable ReplicasetForm) none (members.lookup "replicaset") reference ∧
      node.replicaset = reference.join

/-- A listed server. -/
def ServerForm (json : Json) (node : Node) : Prop :=
  ∃ members, Members serverFields json members ∧ ServerMembers members node

/-- The listed servers in a result part. -/
inductive ServerItems : Json → List Json → Prop where
  | member {members : List (String × Json)} {items : List Json}
      (hLookup : members.lookup "serverList" = some (.array items)) :
    ServerItems (.object members) items
  | only {items : List Json} : ServerItems (.array [.array items]) items

/-! ## The grammar is what is read -/

theorem data?_eq_some_iff {envelope data : Json} :
    data? envelope = some data ↔ ResultPart envelope data := by
  unfold data? ResultPart
  cases envelope with
  | object members =>
    rw [Json.get?_object, Option.filter_eq_some_iff]
    cases data <;> simp [Json.isNull]
  | _ => simp [Json.get?]

theorem uniform_text (name : String) :
    Uniform (defaulted name (Json.Decoder.option Json.Decoder.string) none) [name] :=
  uniform_defaulted ..

theorem decodeReplicasetRef_eq_ok_iff (json : Json) (uuid : Option String) :
    decodeReplicasetRef json = .ok uuid ↔ ReplicasetForm json uuid := by
  rw [decodeReplicasetRef, ((uniform_text "uuid").map id).record_eq_ok_iff]
  simp only [ofMembers_map_eq_complete_iff, id, exists_eq_right,
    ofMembers_option_eq_complete_iff Json.Decoder.string_eq_ok_iff, ReplicasetForm]

theorem decodeServer_eq_ok_iff (json : Json) (node : Node) :
    decodeServer json = .ok node ↔ ServerForm json node := by
  rw [decodeServer, ((((((uniform_required "uri" _).map _).seq
    (uniform_text "alias") (by decide)).seq (uniform_text "status") (by decide)).seq
    (uniform_text "uuid") (by decide)).seq (uniform_text "message") (by decide)).seq
    (uniform_defaulted "replicaset" _ _) (by decide) |>.record_eq_ok_iff]
  -- the fields are told from the last to the first
  simp only [ofMembers_seq_eq_complete_iff, ↓exists_ofMembers_seq_iff, ↓exists_ofMembers_map_iff,
    ofMembers_required_eq_complete_iff, Json.Decoder.string_eq_ok_iff,
    ofMembers_option_eq_complete_iff Json.Decoder.string_eq_ok_iff,
    ofMembers_option_eq_complete_iff decodeReplicasetRef_eq_ok_iff]
  constructor
  · rintro ⟨members, hMembers, reference, hReference, message, hMessage, uuid, hUuid, status,
      hStatus, aliasName, hAlias, uri, ⟨_, hUri, rfl⟩, rfl⟩
    exact ⟨members, hMembers, hUri, hAlias, hStatus, hUuid, hMessage, reference, hReference, rfl⟩
  · rintro ⟨members, hMembers, h⟩
    obtain ⟨reference, hReference, hReplicaset⟩ := h.replicaset
    refine ⟨members, hMembers, reference, hReference, _, h.message, _, h.uuid, _, h.status,
      _, h.aliasName, _, ⟨_, h.uri, rfl⟩, ?_⟩
    rw [← hReplicaset]

-- a server may be told by places, and leave out the last of them
example : decodeServer (.array [.string "h:1", .null, .string "healthy"]) =
    .ok ⟨"h:1", none, some "healthy", none, none, none⟩ := by rfl

/-- The list stands under its name, or alone in an array. -/
theorem serverItems_iff {data : Json} {items : List Json} :
    ServerItems data items ↔
      ∃ members, Members ["serverList"] data members ∧
        members.lookup "serverList" = some (.array items) := by
  rw [exists_members_singleton_iff]
  constructor
  · rintro (hLookup | _)
    · exact .inl ⟨_, rfl, hLookup⟩
    · exact .inr (.inr ⟨_, rfl, rfl⟩)
  · rintro (⟨_, rfl, hLookup⟩ | ⟨-, ⟨⟩⟩ | ⟨_, rfl, ⟨⟩⟩)
    · exact .member hLookup
    · exact .only

theorem decodeServerList_eq_ok_iff {data : Json} {nodes : List Node} :
    decodeServerList data = .ok nodes ↔
      ∃ items, ServerItems data items ∧ List.Forall₂ ServerForm items nodes := by
  rw [decodeServerList, ((uniform_required "serverList" _).map id).record_eq_ok_iff]
  simp only [ofMembers_map_eq_complete_iff, ofMembers_required_eq_complete_iff, id,
    exists_eq_right, Json.Decoder.list_eq_ok_iff decodeServer_eq_ok_iff, serverItems_iff]
  constructor
  · rintro ⟨members, hMembers, _, hLookup, items, rfl, hItems⟩
    exact ⟨items, ⟨members, hMembers, hLookup⟩, hItems⟩
  · rintro ⟨items, ⟨members, hMembers, hLookup⟩, hItems⟩
    exact ⟨members, hMembers, _, hLookup, items, rfl, hItems⟩

/-! ## Answers -/

/-- An answer without a result part is reported whole. -/
theorem decodeData_of_not_resultPart {α : Type} (operation : Operation) (decode : Json.Decoder α)
    {envelope : Json} (hNone : ¬ ∃ data, ResultPart envelope data) :
    decodeData operation decode envelope = .error (.missingData operation.name envelope) := by
  have hData : data? envelope = none := by
    cases hSome : data? envelope with
    | none => rfl
    | some data => exact absurd ⟨data, data?_eq_some_iff.mp hSome⟩ hNone
  rw [decodeData, hData]

theorem ResultPart.decodeData_eq {envelope data : Json} (h : ResultPart envelope data) {α : Type}
    (operation : Operation) (decode : Json.Decoder α) :
    decodeData operation decode envelope =
      (decode data).mapError fun fault => .malformed operation.name fault.text := by
  rw [decodeData, data?_eq_some_iff.mpr h]

/-- The servers are read exactly where the answer has their grammar, each in its place and with what its
members say.  An answer without a result part is reported whole, and every other one is malformed. -/
theorem decodeServers_grammar (envelope : Json) :
    ((¬ ∃ data, ResultPart envelope data) →
      decodeServers envelope = .error (.missingData "getServers" envelope)) ∧
    ∀ data, ResultPart envelope data →
      ((∃ nodes, decodeServers envelope = .ok nodes) ↔
        ∃ items, ServerItems data items ∧ ∀ item ∈ items, ∃ node, ServerForm item node) ∧
      (∀ nodes, decodeServers envelope = .ok nodes ↔
        ∃ items, ServerItems data items ∧ List.Forall₂ ServerForm items nodes) ∧
      ((∀ nodes, decodeServers envelope ≠ .ok nodes) →
        ∃ message, decodeServers envelope = .error (.malformed "getServers" message)) := by
  refine ⟨decodeData_of_not_resultPart .getServers decodeServerList, fun data hData => ?_⟩
  have hRead (nodes : List Node) : decodeServers envelope = .ok nodes ↔
      ∃ items, ServerItems data items ∧ List.Forall₂ ServerForm items nodes := by
    rw [decodeServers, hData.decodeData_eq, mapError_eq_ok_iff, decodeServerList_eq_ok_iff]
  refine ⟨?_, hRead, fun hNone => ?_⟩
  · simp only [hRead, ← exists_forall₂_iff]
    constructor
    · rintro ⟨nodes, items, hItems, hForms⟩
      exact ⟨items, hItems, nodes, hForms⟩
    · rintro ⟨items, hItems, nodes, hForms⟩
      exact ⟨nodes, items, hItems, hForms⟩
  · -- with a result part in hand, only its form can be at fault
    cases hList : decodeServerList data with
    | error fault => exact ⟨fault.text, by rw [decodeServers, hData.decodeData_eq, hList]; rfl⟩
    | ok nodes =>
      have hOk : decodeServers envelope = .ok nodes := by
        rw [decodeServers, hData.decodeData_eq, hList]
        rfl
      exact absurd hOk (hNone nodes)

end ClusterBootstrap.Wire
