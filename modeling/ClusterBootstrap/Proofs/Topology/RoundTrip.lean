import ClusterBootstrap.Proofs.Json.Members
import ClusterBootstrap.Proofs.Wire.Assignment
import ClusterBootstrap.Proofs.Wire.ClusterState

/-!
# Nodes, failover modes and cluster states survive being written

Each of them is written as JSON and read by a decoder of its own.  What is read from the text is what was
written, whatever texts, roles and numbers it holds; so one text stands for one value, and a set of roles is
always written in one order.
-/

namespace ClusterBootstrap

open Json (Readable)
open Json.Fields (Told told_optional told_required)

/-- The values of a type are written so that they are read again. -/
structure Survives {α : Type} (toJson : α → Json) (decode : Json.Decoder α) : Prop where
  /-- The compact text of a value is a document from which the value is read. -/
  text : ∀ a, ∃ json, Json.parse (toJson a).compact = .ok json ∧ decode json = .ok a
  /-- A value is read from the JSON that it is written as; so is one that was read from any other JSON. -/
  value : ∀ a, decode (toJson a) = .ok a
  /-- Values with one text are equal. -/
  unique : ∀ a b, (toJson a).compact = (toJson b).compact → a = b

/-- These texts ascend strictly by their bytes; so none of them comes twice. -/
def BytesAscend (texts : List String) : Prop :=
  texts.Pairwise fun s t => Json.bytesOf s < Json.bytesOf t

/-- A text is read as the normal form of what was written, which must be read like it. -/
theorem survives_of_normal {α : Type} {toJson : α → Json} {decode : Json.Decoder α}
    (hReadable : ∀ a, Readable Json.depthLimit (toJson a))
    (hValue : ∀ a, decode (toJson a) = .ok a)
    (hNormal : ∀ a, decode (toJson a).normal = .ok a) : Survives toJson decode where
  text a := ⟨_, Json.parse_compact (hReadable a), hNormal a⟩
  value := hValue
  unique a b hText := by
    have hSame : Json.parse (toJson a).compact = Json.parse (toJson b).compact := by rw [hText]
    rw [Json.parse_compact (hReadable a), Json.parse_compact (hReadable b)] at hSame
    have hRead : decode (toJson a).normal = decode (toJson b).normal := by
      rw [Except.ok.inj hSame]
    rw [hNormal, hNormal] at hRead
    exact Except.ok.inj hRead

/-! ## Nodes -/

theorem option_ofOption (text : Option String) :
    Json.Decoder.option Json.Decoder.string (.ofOption text) = .ok text := by
  cases text <;> rfl

/-- A node is read from its members in any order. -/
theorem Node.decode_of_lookup {node : Node} {members others : List (String × Json)}
    (hJson : node.toJson = .object members)
    (hSame : ∀ name, others.lookup name = members.lookup name) :
    Node.decode (.object others) = .ok node := by
  cases hJson
  have hText {name : String} {text : Option String}
      (hLookup : others.lookup name = some (.ofOption text)) :
      Told (Json.Fields.optional name Json.Decoder.string) others text :=
    told_optional hLookup (option_ofOption text)
  have hUri : Told (Json.Fields.required "uri" Json.Decoder.string) others node.uri :=
    told_required (hSame "uri") rfl
  exact ((((((hUri.map Node.mk).seq (hText (hSame "alias"))).seq (hText (hSame "status"))).seq
    (hText (hSame "uuid"))).seq (hText (hSame "message"))).seq
    (hText (hSame "replicaset_id"))).record "NodeDescription" 6

theorem Node.readable_toJson (node : Node) : Readable Json.depthLimit node.toJson := by
  refine .object ?_
  simp only [List.forall_mem_cons]
  exact ⟨.string _, Wire.readable_ofOption _ _, Wire.readable_ofOption _ _,
    Wire.readable_ofOption _ _, Wire.readable_ofOption _ _, Wire.readable_ofOption _ _,
    fun _ hMem => absurd hMem List.not_mem_nil⟩

theorem Node.decode_normal (node : Node) : Node.decode node.toJson.normal = .ok node := by
  have hJson : node.toJson = .object _ := rfl
  obtain ⟨others, hNormal, hSame⟩ := Json.exists_normal_object hJson (by simp)
    (by simp only [Json.normalMembers, Json.normal, Wire.normal_ofOption])
  rw [hNormal]
  exact Node.decode_of_lookup hJson hSame

theorem survives_node : Survives Node.toJson Node.decode :=
  survives_of_normal Node.readable_toJson (fun _ => Node.decode_of_lookup rfl fun _ => rfl)
    Node.decode_normal

/-! ## Failover modes -/

/-- A named mode is written as a bare name and any other one inside an object, so that none is taken for
another, whatever the other one is called. -/
theorem FailoverMode.decode_toJson (mode : FailoverMode) :
    FailoverMode.decode mode.toJson = .ok mode := by
  cases mode <;> rfl

theorem FailoverMode.normal_toJson (mode : FailoverMode) : mode.toJson.normal = mode.toJson := by
  cases mode <;> rfl

theorem FailoverMode.readable_toJson (depth : Nat) (mode : FailoverMode) :
    Readable (depth + 1) mode.toJson := by
  cases mode with
  | other name => exact .object (List.forall_mem_singleton.mpr (.string name))
  | _ => exact .string _

theorem survives_failoverMode : Survives FailoverMode.toJson FailoverMode.decode := by
  refine survives_of_normal (FailoverMode.readable_toJson 126) FailoverMode.decode_toJson
    fun mode => ?_
  rw [mode.normal_toJson]
  exact mode.decode_toJson

/-! ## Sets of roles -/

/-- A set is read from its names in any order and with repetitions. -/
theorem RoleSet.decode_strings (names : List String) :
    RoleSet.decode (.strings names) = .ok (.ofList names) := by
  rw [RoleSet.decode, (Wire.strings_eq_ok_iff _ names).mpr rfl]
  rfl

theorem RoleSet.ofList_names (set : RoleSet) : RoleSet.ofList set.names = set :=
  Wire.ofList_eq_iff.mpr fun _ => Iff.rfl

theorem RoleSet.decode_toJson (set : RoleSet) : RoleSet.decode set.toJson = .ok set := by
  rw [RoleSet.toJson, RoleSet.decode_strings, set.ofList_names]

theorem RoleSet.bytesAscend_names (set : RoleSet) : BytesAscend set.names :=
  set.ascending.imp Json.bytesOf_lt_of_lt

/-! ## Cluster states -/

theorem uint64_toNat (count : UInt64) :
    Json.Decoder.uint64 (.integer count.toNat) = .ok count :=
  (Wire.uint64_eq_ok_iff _ _).mpr
    ⟨_, rfl, Int.natCast_nonneg _, Int.ofNat_lt.mpr count.toNat_lt, rfl⟩

theorem readable_toNat (depth : Nat) (count : UInt64) : Readable depth (.integer count.toNat) := by
  have hWord : (count.toNat : Int) < Decimal.wordCount := Int.ofNat_lt.mpr count.toNat_lt
  exact .integer (.inl (by simp [Decimal.isWord, hWord]))

/-- A state is read from its members in any order. -/
theorem ClusterState.decode_of_lookup {state : ClusterState} {members others : List (String × Json)}
    (hJson : state.toJson = .object members)
    (hSame : ∀ name, others.lookup name = members.lookup name) :
    ClusterState.decode (.object others) = .ok state := by
  cases hJson
  have hText {name text : String} (hLookup : others.lookup name = some (.string text)) :
      Told (Json.Fields.required name Json.Decoder.string) others text :=
    told_required hLookup rfl
  have hFailover := told_required (hSame "failover_mode") state.failover.decode_toJson
  have hRoles := told_required (hSame "known_roles") state.knownRoles.decode_toJson
  have hFlag : Told (Json.Fields.required "can_bootstrap_vshard" Json.Decoder.bool) others
      state.canBootstrapVshard :=
    told_required (hSame "can_bootstrap_vshard") rfl
  have hCount := told_required (hSame "vshard_bucket_count") (uint64_toNat state.vshardBucketCount)
  exact (((((((hText (hSame "self_uri")).map ClusterState.mk).seq (hText (hSame "self_uuid"))).seq
    hFailover).seq hRoles).seq hFlag).seq hCount).record "ClusterState" 6

theorem ClusterState.readable_toJson (state : ClusterState) :
    Readable Json.depthLimit state.toJson := by
  refine .object ?_
  simp only [List.forall_mem_cons]
  exact ⟨.string _, .string _, state.failover.readable_toJson 125, Wire.readable_strings 125 _,
    .bool _, readable_toNat _ _, fun _ hMem => absurd hMem List.not_mem_nil⟩

theorem ClusterState.decode_normal (state : ClusterState) :
    ClusterState.decode state.toJson.normal = .ok state := by
  have hJson : state.toJson = .object _ := rfl
  obtain ⟨others, hNormal, hSame⟩ := Json.exists_normal_object hJson (by simp)
    (by simp only [Json.normalMembers, Json.normal, FailoverMode.normal_toJson, RoleSet.toJson,
      Wire.normal_strings])
  rw [hNormal]
  exact ClusterState.decode_of_lookup hJson hSame

theorem survives_clusterState : Survives ClusterState.toJson ClusterState.decode :=
  survives_of_normal ClusterState.readable_toJson
    (fun _ => ClusterState.decode_of_lookup rfl fun _ => rfl) ClusterState.decode_normal

/-! ## All of them -/

/-- Nodes, failover modes and cluster states survive being written, without any condition on what they
hold.  The roles of a cluster state are written in the order of their bytes, each once, in whatever order and
as often as they were read. -/
theorem topology_survives :
    Survives Node.toJson Node.decode ∧ Survives FailoverMode.toJson FailoverMode.decode ∧
      Survives ClusterState.toJson ClusterState.decode ∧
      (∀ state : ClusterState, ∃ names, state.toJson.get? "known_roles" = some (.strings names) ∧
        BytesAscend names ∧ ∀ role, role ∈ names ↔ state.knowsRole role = true) ∧
      ∀ names, ∃ set, RoleSet.decode (.strings names) = .ok set ∧
        ∀ role, role ∈ set.names ↔ role ∈ names := by
  refine ⟨survives_node, survives_failoverMode, survives_clusterState, fun state => ?_,
    fun names => ?_⟩
  · exact ⟨state.knownRoles.names, rfl, state.knownRoles.bytesAscend_names,
      fun role => RoleSet.contains_iff.symm⟩
  · exact ⟨_, RoleSet.decode_strings names, fun role => RoleSet.mem_names_ofList⟩

end ClusterBootstrap
