import ClusterBootstrap.Proofs.Settings.Loading
import ClusterBootstrap.Proofs.Topology.RoundTrip

/-!
# Settings as documents

A JSON document sets some of the leaves.  Read as settings, it gives these leaves its values and leaves
every other one its default, at the root and inside the client's object alike.  The document that is written
for settings sets all their leaves, and so it is read as those settings again.
-/

namespace ClusterBootstrap

namespace Json

/-- The value that a path of names leads to. -/
def at? : List String → Json → Option Json
  | [], json => some json
  | name :: path, json => (json.get? name).bind (at? path)

theorem map_fst_normalMembers (members : List (String × Json)) :
    (normalMembers members).map Prod.fst = members.map Prod.fst := by
  induction members with
  | nil => rfl
  | cons m members ih =>
    rw [normalMembers, List.map_cons, List.map_cons, ih]

theorem lookup_normalMembers (name : String) (members : List (String × Json)) :
    (normalMembers members).lookup name = (members.lookup name).map normal := by
  induction members with
  | nil => rfl
  | cons m members ih =>
    rw [normalMembers, lookup_cons_eq, lookup_cons_eq, ih]
    dsimp only
    split
    · rfl
    · rfl

/-- Where no name comes twice, the normal form of an object has the normal forms of its members. -/
theorem get?_normal {members : List (String × Json)} (hDistinct : (members.map Prod.fst).Nodup)
    (name : String) :
    (object members).normal.get? name = ((object members).get? name).map normal := by
  have hNormal : ((normalMembers members).map Prod.fst).Nodup := by
    rw [map_fst_normalMembers]
    exact hDistinct
  rw [normal, ofMembers, get?_object, get?_object, lookup_foldl_insertMember hNormal,
    List.lookup_nil, Option.or_none, lookup_normalMembers]

namespace Fields

variable {α : Type} {name : String} {members : List (String × Json)}

/-- A member that is there tells the value that it was written for, and one that is not tells the default. -/
theorem told_defaulted {decode : Decoder α} {toJson : α → Json} {value : Option α}
    (hDecode : ∀ a, decode (toJson a) = .ok a) (hLookup : members.lookup name = value.map toJson)
    (default : α) : Told (defaulted name decode default) members (value.getD default) := by
  cases value with
  | none =>
    have hNone : members.lookup name = none := hLookup
    simp [Told, defaulted, field, hNone]
  | some a => exact told_field hLookup (hDecode a)

end Fields

end Json

namespace Settings

/-! ## Written leaves -/

namespace Kind

/-- A value as JSON. -/
def toJson : (kind : Kind) → kind.Value → Json
  | text, value => .string value
  | seconds, value => .integer value.toNat
  | names, value => .strings value
  | policy, value => .string value.name

/-- How the values of a kind are read from JSON. -/
def decoder : (kind : Kind) → Json.Decoder kind.Value
  | text => Json.Decoder.string
  | seconds => Json.Decoder.uint64
  | names => Json.Decoder.list Json.Decoder.string
  | policy => FallbackPolicy.decode

theorem decoder_toJson (kind : Kind) (value : kind.Value) :
    kind.decoder (kind.toJson value) = .ok value := by
  cases kind with
  | text => rfl
  | seconds => exact uint64_toNat value
  | names => exact (Wire.strings_eq_ok_iff _ _).mpr rfl
  | policy => cases value <;> rfl

theorem normal_toJson (kind : Kind) (value : kind.Value) :
    (kind.toJson value).normal = kind.toJson value := by
  cases kind with
  | text | seconds | policy => rfl
  | names => exact Wire.normal_strings value

end Kind

/-! ## What a document sets -/

/-- What a JSON document sets: the leaves of a layer stand at their places, and no other leaf stands at
its own.  Members of other names are free, and the client's object may be left out where it has no leaf. -/
structure DocumentSets (json : Json) (layer : Overrides) : Prop where
  object : ∃ members, json = .object members
  client : ∀ value, json.get? "client" = some value → ∃ members, value = .object members
  leaf : ∀ leaf : Leaf, json.at? leaf.path = (layer leaf).map leaf.kind.toJson

/-- The chosen leaves of some settings. -/
def Overrides.only (chosen : Leaf → Bool) (settings : BootstrapSettings) : Overrides :=
  fun leaf => if chosen leaf then some (leaf.get settings) else none

open Json.Fields (Told told_defaulted)

/-- The client's object is read leaf by leaf. -/
theorem decode_client {fields : List (String × Json)} {layer : Overrides}
    (hLookup : ∀ (leaf : Leaf) (name : String), leaf.path = ["client", name] →
      fields.lookup name = (layer leaf).map leaf.kind.toJson) :
    ClientSettings.decode (.object fields) =
      .ok (ofLeaves fun leaf => (layer leaf).getD (leaf.get .default)).client := by
  have hTold : ∀ (leaf : Leaf) (name : String), leaf.path = ["client", name] →
      Told (Json.Fields.defaulted name leaf.kind.decoder (leaf.get .default)) fields
        ((layer leaf).getD (leaf.get .default)) := by
    intro leaf name hPath
    exact told_defaulted leaf.kind.decoder_toJson (hLookup leaf name hPath) _
  exact ((((((hTold .endpoint _ rfl).map ClientSettings.mk).seq (hTold .apiPath _ rfl)).seq
    (hTold .probeTimeout _ rfl)).seq (hTold .requestTimeout _ rfl)).seq
    (hTold .userAgent _ rfl)).record "ClientConfig" 5

/-- A document is read as the leaves that it sets, over the defaults. -/
theorem DocumentSets.decode_eq {json : Json} {layer : Overrides} (hSets : DocumentSets json layer) :
    BootstrapSettings.decode json =
      .ok (ofLeaves fun leaf => (layer leaf).getD (leaf.get .default)) := by
  obtain ⟨⟨members, rfl⟩, hObject, hLeaf⟩ := hSets
  have hRoot : ∀ (leaf : Leaf) (name : String), leaf.path = [name] →
      Told (Json.Fields.defaulted name leaf.kind.decoder (leaf.get .default)) members
        ((layer leaf).getD (leaf.get .default)) := by
    intro leaf name hPath
    refine told_defaulted leaf.kind.decoder_toJson ?_ _
    rw [← hLeaf leaf, hPath]
    exact (Option.bind_fun_some _).symm
  have hClient : Told (Json.Fields.defaulted "client" ClientSettings.decode
      BootstrapSettings.default.client) members
        (ofLeaves fun leaf => (layer leaf).getD (leaf.get .default)).client := by
    cases hLookup : members.lookup "client" with
    | none =>
      -- a client's object that is not there sets none of its leaves
      have hNone : ∀ (leaf : Leaf) (name : String), leaf.path = ["client", name] →
          layer leaf = none := by
        intro leaf name hPath
        have hAbsent := hLeaf leaf
        rw [hPath, Json.at?, Json.get?_object, hLookup] at hAbsent
        exact Option.map_eq_none_iff.mp hAbsent.symm
      have hDefault : (ofLeaves fun leaf => (layer leaf).getD (leaf.get .default)).client =
          BootstrapSettings.default.client := by
        simp only [ofLeaves, hNone .endpoint _ rfl, hNone .apiPath _ rfl,
          hNone .probeTimeout _ rfl, hNone .requestTimeout _ rfl, hNone .userAgent _ rfl]
        rfl
      rw [hDefault]
      simp [Told, Json.Fields.defaulted, Json.Fields.field, hLookup]
    | some value =>
      obtain ⟨fields, rfl⟩ := hObject value hLookup
      refine Json.Fields.told_field hLookup (decode_client fun leaf name hPath => ?_)
      rw [← hLeaf leaf, hPath, Json.at?, Json.get?_object, hLookup]
      exact (Option.bind_fun_some _).symm
  exact (((hClient.map BootstrapSettings.mk).seq (hRoot .roles _ rfl)).seq
    (hRoot .fallback _ rfl)).record "BootstrapConfig" 3

/-! ## Written documents -/

/-- The document that is written for settings sets all their leaves. -/
theorem documentSets_toJson (settings : BootstrapSettings) :
    DocumentSets settings.toJson (.only (fun _ => true) settings) where
  object := ⟨_, rfl⟩
  client := by
    rintro value ⟨⟩
    exact ⟨_, rfl⟩
  leaf leaf := by cases leaf <;> rfl

/-- So does what is read from its text. -/
theorem documentSets_normal (settings : BootstrapSettings) :
    DocumentSets settings.toJson.normal (.only (fun _ => true) settings) := by
  have hRoot : ∀ name, settings.toJson.normal.get? name =
      (settings.toJson.get? name).map Json.normal :=
    Json.get?_normal (by simp)
  have hClient : ∀ name, settings.client.toJson.normal.get? name =
      (settings.client.toJson.get? name).map Json.normal :=
    Json.get?_normal (by simp)
  refine ⟨⟨_, rfl⟩, fun value hValue => ?_, fun leaf => ?_⟩
  · rw [hRoot] at hValue
    obtain rfl : settings.client.toJson.normal = value := Option.some.inj hValue
    exact ⟨_, rfl⟩
  · -- what stands at the place of a leaf is its own normal form
    have hAt : settings.toJson.normal.at? leaf.path =
        (settings.toJson.at? leaf.path).map Json.normal := by
      rcases leaf.path_cases with ⟨field, hPath⟩ | ⟨key, hPath, -⟩
      · rw [hPath, Json.at?, Json.at?, hRoot]
        show (settings.client.toJson.normal.get? field).bind some =
          ((settings.client.toJson.get? field).bind some).map Json.normal
        rw [Option.bind_fun_some, Option.bind_fun_some, hClient]
      · rw [hPath]
        show (settings.toJson.normal.get? key).bind some =
          ((settings.toJson.get? key).bind some).map Json.normal
        rw [Option.bind_fun_some, Option.bind_fun_some, hRoot]
    rw [hAt, (documentSets_toJson settings).leaf leaf]
    exact congrArg some (leaf.kind.normal_toJson (leaf.get settings))

/-- A document that sets all leaves of some settings is read as these settings. -/
theorem DocumentSets.decode_all {json : Json} {settings : BootstrapSettings}
    (hSets : DocumentSets json (.only (fun _ => true) settings)) :
    BootstrapSettings.decode json = .ok settings :=
  hSets.decode_eq

theorem readable_toJson (settings : BootstrapSettings) :
    Json.Readable Json.depthLimit settings.toJson := by
  have hClient : Json.Readable 126 settings.client.toJson := by
    refine .object ?_
    simp only [List.forall_mem_cons]
    exact ⟨.string _, .string _, readable_toNat _ _, readable_toNat _ _, .string _,
      fun _ hMem => absurd hMem List.not_mem_nil⟩
  refine .object ?_
  simp only [List.forall_mem_cons]
  exact ⟨hClient, Wire.readable_strings 125 _, .string _,
    fun _ hMem => absurd hMem List.not_mem_nil⟩

/-- Settings are read again from the document that is written for them, and from its text. -/
theorem survives_settings : Survives BootstrapSettings.toJson BootstrapSettings.decode :=
  survives_of_normal readable_toJson (fun settings => (documentSets_toJson settings).decode_all)
    fun settings => (documentSets_normal settings).decode_all

/-! ## Partial documents -/

/-- The members for the leaves of a layer, each under the name that goes with it. -/
def members (layer : Overrides) (leaves : List (Leaf × String)) : List (String × Json) :=
  leaves.filterMap fun (leaf, name) =>
    (layer leaf).map fun value => (name, leaf.kind.toJson value)

/-- The leaves in the client's object. -/
def clientLeaves : List (Leaf × String) :=
  [(.endpoint, "endpoint"), (.apiPath, "api_path"), (.probeTimeout, "probe_timeout_seconds"),
    (.requestTimeout, "request_timeout_seconds"), (.userAgent, "user_agent")]

/-- The leaves at the root. -/
def rootLeaves : List (Leaf × String) :=
  [(.roles, "roles"), (.fallback, "fallback")]

/-- A document with the leaves of a layer and no other members. -/
def document (layer : Overrides) : Json :=
  .object (("client", .object (members layer clientLeaves)) :: members layer rootLeaves)

theorem lookup_members_of_not_mem (layer : Overrides) {leaves : List (Leaf × String)} {name : String}
    (hNot : name ∉ leaves.map Prod.snd) : (members layer leaves).lookup name = none := by
  rw [List.lookup_eq_none_iff]
  intro m hMem
  obtain ⟨⟨leaf, other⟩, hLeaf, hMember⟩ := List.mem_filterMap.mp hMem
  obtain ⟨value, -, rfl⟩ := Option.map_eq_some_iff.mp hMember
  have hNe : name ≠ other := by
    rintro rfl
    exact hNot (List.mem_map.mpr ⟨_, hLeaf, rfl⟩)
  simpa using hNe

/-- Where no name goes with two leaves, each leaf is found under its own. -/
theorem lookup_members (layer : Overrides) {leaves : List (Leaf × String)}
    (hDistinct : (leaves.map Prod.snd).Nodup) {leaf : Leaf} {name : String}
    (hMem : (leaf, name) ∈ leaves) :
    (members layer leaves).lookup name = (layer leaf).map leaf.kind.toJson := by
  induction leaves with
  | nil => cases hMem
  | cons first leaves ih =>
    obtain ⟨hFirst, hRest⟩ := List.nodup_cons.mp hDistinct
    have hCons : (members layer (first :: leaves)).lookup name =
        ((if name = first.2 then (layer first.1).map first.1.kind.toJson else none).or
          ((members layer leaves).lookup name)) := by
      rw [members, List.filterMap_cons]
      dsimp only
      cases layer first.1 with
      | none => simp [members]
      | some value =>
        rw [Option.map_some, Json.lookup_cons_eq]
        split <;> rfl
    rw [hCons]
    rcases List.mem_cons.mp hMem with rfl | hMem
    · rw [if_pos rfl, lookup_members_of_not_mem layer hFirst, Option.or_none]
    · have hNe : name ≠ first.2 := by
        rintro rfl
        exact hFirst (List.mem_map.mpr ⟨_, hMem, rfl⟩)
      rw [if_neg hNe, Option.none_or, ih hRest hMem]

theorem documentSets_document (layer : Overrides) : DocumentSets (document layer) layer where
  object := ⟨_, rfl⟩
  client := by
    rintro value ⟨⟩
    exact ⟨_, rfl⟩
  leaf leaf := by
    have hField {leaf : Leaf} {name : String} (hMem : (leaf, name) ∈ clientLeaves) :
        (document layer).at? ["client", name] = (layer leaf).map leaf.kind.toJson := by
      show ((members layer clientLeaves).lookup name).bind some = _
      rw [Option.bind_fun_some, lookup_members layer (by decide) hMem]
    have hEntry {leaf : Leaf} {name : String} (hMem : (leaf, name) ∈ rootLeaves) :
        (document layer).at? [name] = (layer leaf).map leaf.kind.toJson := by
      have hNe : name ≠ "client" := by
        rintro rfl
        exact absurd (List.mem_map_of_mem hMem) (by decide : "client" ∉ rootLeaves.map Prod.snd)
      rw [document, Json.at?, Json.get?_object, Json.lookup_cons_eq, if_neg hNe,
        lookup_members layer (by decide) hMem]
      exact Option.bind_fun_some _
    cases leaf with
    | endpoint | apiPath | probeTimeout | requestTimeout | userAgent => exact hField (by decide)
    | roles | fallback => exact hEntry (by decide)

/-! ## Every document -/

/-- There is a document with any choice of the leaves of any settings.  Every document that has just these
leaves, whatever else it holds, is read as settings that agree with the given ones on the chosen leaves and
with the defaults on all others.  The document that is written for settings has all their leaves, so that
they survive being written. -/
theorem documents_overlay_defaults (settings : BootstrapSettings) (chosen : Leaf → Bool) :
    DocumentSets (document (.only chosen settings)) (.only chosen settings) ∧
    (∀ json, DocumentSets json (.only chosen settings) →
      ∃ read, BootstrapSettings.decode json = .ok read ∧ ∀ leaf : Leaf,
        leaf.get read = if chosen leaf then leaf.get settings else leaf.get .default) ∧
    DocumentSets settings.toJson (.only (fun _ => true) settings) ∧
    Survives BootstrapSettings.toJson BootstrapSettings.decode := by
  refine ⟨documentSets_document _, fun json hSets => ?_, documentSets_toJson settings,
    survives_settings⟩
  refine ⟨_, hSets.decode_eq, fun leaf => ?_⟩
  rw [get_ofLeaves, Overrides.only]
  cases chosen leaf with
  | false => rfl
  | true => rfl

/-- A document with two of the leaves, one in each object, among members that mean nothing. -/
theorem decode_with_foreign_members :
    let settings : BootstrapSettings :=
      { client := ⟨"h:1", "/x", 1, 18446744073709551615, "ua"⟩, roles := [], fallback := .fail }
    let chosen (leaf : Leaf) : Bool := leaf = .requestTimeout || leaf = .roles
    let json : Json := .object [
      ("Roles", .null), ("roles", .array []),
      ("client", .object [
        ("request_timeout_seconds", .integer 18446744073709551615), ("timeout", .bool true)])]
    DocumentSets json (.only chosen settings) ∧
      ∃ read, BootstrapSettings.decode json = .ok read ∧
        read.client = { requestTimeout := 18446744073709551615 } ∧ read.roles = [] ∧
          read.fallback = .firstNode := by
  intro settings chosen json
  have hSets : DocumentSets json (.only chosen settings) := by
    refine ⟨⟨_, rfl⟩, ?_, fun leaf => by cases leaf <;> rfl⟩
    rintro value ⟨⟩
    exact ⟨_, rfl⟩
  obtain ⟨-, hRead, -⟩ := documents_overlay_defaults settings chosen
  obtain ⟨read, hDecode, hLeaf⟩ := hRead json hSets
  refine ⟨hSets, read, hDecode, ?_, hLeaf .roles, hLeaf .fallback⟩
  obtain ⟨⟨endpoint, apiPath, probeTimeout, requestTimeout, userAgent⟩, roles, fallback⟩ := read
  obtain rfl : endpoint = _ := hLeaf .endpoint
  obtain rfl : apiPath = _ := hLeaf .apiPath
  obtain rfl : probeTimeout = _ := hLeaf .probeTimeout
  obtain rfl : requestTimeout = _ := hLeaf .requestTimeout
  obtain rfl : userAgent = _ := hLeaf .userAgent
  rfl

end Settings

end ClusterBootstrap
