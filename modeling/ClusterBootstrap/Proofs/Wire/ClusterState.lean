import Mathlib.Data.List.Sort
import ClusterBootstrap.Proofs.Wire.Servers

/-!
# What the state of a cluster looks like

The answer of the query for the state of the cluster has one grammar, with a default for nearly everything
that may be absent.  The reader accepts exactly what the grammar derives, and gives the state that it tells.
-/

namespace ClusterBootstrap

/-- Sets with the same names are equal. -/
theorem RoleSet.ext_of_mem_iff {set other : RoleSet}
    (hSame : ∀ name, name ∈ set.names ↔ name ∈ other.names) : set = other := by
  obtain ⟨names, hAscending⟩ := set
  obtain ⟨others, hOthers⟩ := other
  obtain rfl : names = others := hAscending.eq_of_mem_iff hOthers hSame
  rfl

namespace Wire

open Json (Default Members Nullable Text exists_members_singleton_iff)
open Json.Fields

/-! ## Grammar -/

/-- A truth value. -/
def Flag (json : Json) (b : Bool) : Prop := json = .bool b

/-- An integer of an unsigned 64-bit word; a floating-point number is none, even if it is whole. -/
def Count (json : Json) (count : UInt64) : Prop :=
  ∃ n : Int, json = .integer n ∧ 0 ≤ n ∧ n < UInt64.size ∧ count.toNat = n

/-- What the endpoint tells about itself. -/
def SelfForm (json : Json) (self : Option String × Option String) : Prop :=
  ∃ members, Members ["uri", "uuid"] json members ∧
    Default (Nullable Text) none (members.lookup "uri") self.1 ∧
      Default (Nullable Text) none (members.lookup "uuid") self.2

/-- A failover mode: an on/off flag, one of three names, or another name, which is kept. -/
inductive FailoverForm : Json → FailoverMode → Prop where
  | on : FailoverForm (.bool true) .eventual
  | off : FailoverForm (.bool false) .disabled
  | disabled : FailoverForm (.string "disabled") .disabled
  | eventual : FailoverForm (.string "eventual") .eventual
  | stateful : FailoverForm (.string "stateful") .stateful
  | other {name : String} (hOther : name ∉ ["disabled", "eventual", "stateful"]) :
    FailoverForm (.string name) (.other name)

/-- A set of roles: a list of their names, in any order and as often as they like. -/
def RolesForm (json : Json) (roles : RoleSet) : Prop :=
  ∃ names : List String, json = .strings names ∧ ∀ name, name ∈ roles.names ↔ name ∈ names

/-- The fields of the state of a cluster, in their order. -/
def clusterFields : List String :=
  ["self", "failover", "known_roles", "can_bootstrap_vshard", "vshard_bucket_count"]

/-- The members of the state of a cluster say what the state is. -/
structure ClusterMembers (members : List (String × Json)) (state : ClusterState) : Prop where
  /-- What the endpoint does not tell about itself is empty. -/
  self : ∃ self, Default (Nullable SelfForm) none (members.lookup "self") self ∧
    state.selfUri = (self.bind Prod.fst).getD "" ∧ state.selfUuid = (self.bind Prod.snd).getD ""
  failover : ∃ mode, Default (Nullable FailoverForm) none (members.lookup "failover") mode ∧
    state.failover = mode.getD .disabled
  knownRoles : Default RolesForm .empty (members.lookup "known_roles") state.knownRoles
  canBootstrapVshard :
    Default Flag false (members.lookup "can_bootstrap_vshard") state.canBootstrapVshard
  vshardBucketCount :
    Default Count 0 (members.lookup "vshard_bucket_count") state.vshardBucketCount

/-- The state of a cluster. -/
def ClusterForm (json : Json) (state : ClusterState) : Prop :=
  ∃ members, Members clusterFields json members ∧ ClusterMembers members state

/-- The cluster in a result part. -/
inductive ClusterOf : Json → Json → Prop where
  | member {members : List (String × Json)} {cluster : Json}
      (hLookup : members.lookup "cluster" = some cluster) : ClusterOf (.object members) cluster
  | only {cluster : Json} : ClusterOf (.array [cluster]) cluster

/-- A result part that leaves the cluster out. -/
inductive LeavesOut : Json → Prop where
  | absent {members : List (String × Json)} (hLookup : members.lookup "cluster" = none) :
    LeavesOut (.object members)
  | null {members : List (String × Json)} (hLookup : members.lookup "cluster" = some .null) :
    LeavesOut (.object members)
  | empty : LeavesOut (.array [])
  | onlyNull : LeavesOut (.array [.null])

/-! ## The grammar is what is read -/

theorem bool_eq_ok_iff (json : Json) (b : Bool) :
    Json.Decoder.bool json = .ok b ↔ Flag json b := by
  unfold Flag
  cases json <;> simp [Json.Decoder.bool]

theorem uint64_eq_ok_iff (json : Json) (count : UInt64) :
    Json.Decoder.uint64 json = .ok count ↔ Count json count := by
  unfold Count
  cases json with
  | integer n =>
    have hCount : Decimal.wordCount = UInt64.size := rfl
    have hWord : Decimal.isWord n = true ↔ 0 ≤ n ∧ n < UInt64.size := by
      simp only [Decimal.isWord, hCount, Bool.and_eq_true, decide_eq_true_eq]
    simp only [Json.Decoder.uint64, hWord, Json.integer.injEq, exists_eq_left']
    constructor
    · intro hDecoded
      split at hDecoded
      · rename_i hRange
        cases hDecoded
        have hToNat : n.toNat.toUInt64.toNat = n.toNat :=
          UInt64.toNat_ofNat_of_lt' (by omega)
        exact ⟨hRange.1, hRange.2, by rw [hToNat]; omega⟩
      · cases hDecoded
    · rintro ⟨hLow, hHigh, hCount⟩
      have hToNat : n.toNat.toUInt64 = count := by
        rw [← hCount, Int.toNat_natCast]
        exact UInt64.ofNat_toNat
      rw [if_pos ⟨hLow, hHigh⟩, hToNat]
  | _ => simp [Json.Decoder.uint64]

theorem decodeSelf_eq_ok_iff (json : Json) (self : Option String × Option String) :
    decodeSelf json = .ok self ↔ SelfForm json self := by
  rw [decodeSelf, ((uniform_text "uri").map _).seq (uniform_text "uuid") (by decide)
    |>.record_eq_ok_iff]
  simp only [ofMembers_seq_eq_complete_iff, ↓exists_ofMembers_map_iff,
    ofMembers_option_eq_complete_iff Json.Decoder.string_eq_ok_iff]
  constructor
  · rintro ⟨members, hMembers, uuid, hUuid, uri, hUri, rfl⟩
    exact ⟨members, hMembers, hUri, hUuid⟩
  · rintro ⟨members, hMembers, hUri, hUuid⟩
    exact ⟨members, hMembers, _, hUuid, _, hUri, rfl⟩

theorem decodeFailover_eq_ok_iff (json : Json) (mode : FailoverMode) :
    decodeFailover json = .ok mode ↔ FailoverForm json mode := by
  constructor
  · intro hDecoded
    cases json with
    | bool enabled =>
      cases enabled with
      | true =>
        cases hDecoded
        exact .on
      | false =>
        cases hDecoded
        exact .off
    | string name =>
      obtain rfl : FailoverMode.ofName name = mode := Except.ok.inj hDecoded
      unfold FailoverMode.ofName
      split_ifs with hDisabled hEventual hStateful
      · exact hDisabled ▸ .disabled
      · exact hEventual ▸ .eventual
      · exact hStateful ▸ .stateful
      · exact .other (by simp [hDisabled, hEventual, hStateful])
    | _ => cases hDecoded
  · intro hForm
    cases hForm with
    | other hOther =>
      simp only [List.mem_cons, List.not_mem_nil, or_false, not_or] at hOther
      simp [decodeFailover, FailoverMode.ofName, hOther]
    | _ => rfl

theorem forall₂_text_iff {items : List Json} {texts : List String} :
    List.Forall₂ Text items texts ↔ items = texts.map .string := by
  induction texts generalizing items with
  | nil => simp
  | cons text texts ih => simp [List.forall₂_cons_right_iff, ih, Text]

theorem strings_eq_ok_iff (json : Json) (texts : List String) :
    Json.Decoder.list Json.Decoder.string json = .ok texts ↔ json = .strings texts := by
  simp only [Json.Decoder.list_eq_ok_iff Json.Decoder.string_eq_ok_iff, forall₂_text_iff,
    exists_eq_right, Json.strings]

/-- A set is what a list of names makes, whatever the order of the list. -/
theorem ofList_eq_iff {names : List String} {roles : RoleSet} :
    RoleSet.ofList names = roles ↔ ∀ name, name ∈ roles.names ↔ name ∈ names := by
  constructor
  · rintro rfl name
    exact RoleSet.mem_names_ofList
  · intro hSame
    exact RoleSet.ext_of_mem_iff fun name => RoleSet.mem_names_ofList.trans (hSame name).symm

theorem default_rolesForm_iff {member : Option Json} {roles : RoleSet} :
    Default RolesForm .empty member roles ↔
      ∃ names, Default (fun json texts => json = .strings texts) [] member names ∧
        RoleSet.ofList names = roles := by
  constructor
  · rintro (_ | ⟨names, hStrings, hSame⟩)
    · exact ⟨[], .absent, rfl⟩
    · exact ⟨names, .present hStrings, ofList_eq_iff.mpr hSame⟩
  · rintro ⟨names, _ | hStrings, rfl⟩
    · exact .absent
    · exact .present ⟨names, hStrings, ofList_eq_iff.mp rfl⟩

theorem decodeCluster_eq_ok_iff (json : Json) (state : ClusterState) :
    decodeCluster json = .ok state ↔ ClusterForm json state := by
  rw [decodeCluster, (((((uniform_defaulted "self" _ _).map _).seq
    (uniform_defaulted "failover" _ _) (by decide)).seq
    (uniform_defaulted "known_roles" _ _) (by decide)).seq
    (uniform_defaulted "can_bootstrap_vshard" _ _) (by decide)).seq
    (uniform_defaulted "vshard_bucket_count" _ _) (by decide) |>.record_eq_ok_iff]
  -- the fields are told from the last to the first
  simp only [ofMembers_seq_eq_complete_iff, ↓exists_ofMembers_seq_iff, ↓exists_ofMembers_map_iff,
    ofMembers_option_eq_complete_iff decodeSelf_eq_ok_iff,
    ofMembers_option_eq_complete_iff decodeFailover_eq_ok_iff,
    ofMembers_defaulted_eq_complete_iff strings_eq_ok_iff,
    ofMembers_defaulted_eq_complete_iff bool_eq_ok_iff,
    ofMembers_defaulted_eq_complete_iff uint64_eq_ok_iff]
  constructor
  · rintro ⟨members, hMembers, count, hCount, flag, hFlag, names, hNames, mode, hMode, self, hSelf,
      rfl⟩
    have hRoles := default_rolesForm_iff.mpr ⟨names, hNames, rfl⟩
    exact ⟨members, hMembers, ⟨self, hSelf, rfl, rfl⟩, ⟨mode, hMode, rfl⟩, hRoles, hFlag, hCount⟩
  · rintro ⟨members, hMembers, h⟩
    obtain ⟨self, hSelf, hUri, hUuid⟩ := h.self
    obtain ⟨mode, hMode, hFailover⟩ := h.failover
    obtain ⟨names, hNames, hRoles⟩ := default_rolesForm_iff.mp h.knownRoles
    refine ⟨members, hMembers, _, h.vshardBucketCount, _, h.canBootstrapVshard, names, hNames,
      mode, hMode, self, hSelf, ?_⟩
    rw [← hUri, ← hUuid, ← hFailover, hRoles]

/-! ## The cluster in a result part -/

theorem clusterOf_iff {data cluster : Json} :
    ClusterOf data cluster ↔
      ∃ members, Members ["cluster"] data members ∧ members.lookup "cluster" = some cluster := by
  rw [exists_members_singleton_iff]
  constructor
  · rintro (hLookup | _)
    · exact .inl ⟨_, rfl, hLookup⟩
    · exact .inr (.inr ⟨_, rfl, rfl⟩)
  · rintro (⟨_, rfl, hLookup⟩ | ⟨-, ⟨⟩⟩ | ⟨_, rfl, ⟨⟩⟩)
    · exact .member hLookup
    · exact .only

theorem leavesOut_iff {data : Json} :
    LeavesOut data ↔
      ClusterOf data .null ∨
        ∃ members, Members ["cluster"] data members ∧ members.lookup "cluster" = none := by
  rw [exists_members_singleton_iff]
  constructor
  · rintro (hLookup | hLookup | _ | _)
    · exact .inr (.inl ⟨_, rfl, hLookup⟩)
    · exact .inl (.member hLookup)
    · exact .inr (.inr (.inl ⟨rfl, rfl⟩))
    · exact .inl .only
  · rintro ((hLookup | _) | ⟨_, rfl, hLookup⟩ | ⟨rfl, -⟩ | ⟨_, -, ⟨⟩⟩)
    · exact .null hLookup
    · exact .onlyNull
    · exact .absent hLookup
    · exact .empty

/-- A null is no cluster. -/
theorem ClusterForm.ne_null {cluster : Json} {state : ClusterState}
    (h : ClusterForm cluster state) : cluster ≠ .null := by
  rintro rfl
  obtain ⟨_, ⟨⟩, -⟩ := h

/-- A result part that is read tells a cluster or leaves it out. -/
theorem decodeClusterData_eq_ok_iff {data : Json} {found : Option ClusterState} :
    decodeClusterData data = .ok found ↔
      (LeavesOut data ∧ found = none) ∨
        ∃ cluster state, ClusterOf data cluster ∧ ClusterForm cluster state ∧
          found = some state := by
  rw [decodeClusterData, ((uniform_defaulted "cluster" _ _).map id).record_eq_ok_iff]
  simp only [ofMembers_map_eq_complete_iff, id, exists_eq_right,
    ofMembers_option_eq_complete_iff decodeCluster_eq_ok_iff, leavesOut_iff, clusterOf_iff]
  constructor
  · rintro ⟨members, hMembers, hFound⟩
    cases hLookup : members.lookup "cluster" with
    | none =>
      rw [hLookup] at hFound
      cases hFound
      exact .inl ⟨.inr ⟨members, hMembers, hLookup⟩, rfl⟩
    | some cluster =>
      rw [hLookup] at hFound
      rcases hFound with _ | _ | ⟨-, hForm⟩
      · exact .inl ⟨.inl ⟨members, hMembers, hLookup⟩, rfl⟩
      · exact .inr ⟨cluster, _, ⟨members, hMembers, hLookup⟩, hForm, rfl⟩
  · rintro (⟨⟨members, hMembers, hLookup⟩ | ⟨members, hMembers, hLookup⟩, rfl⟩ |
      ⟨cluster, state, ⟨members, hMembers, hLookup⟩, hForm, rfl⟩)
    · exact ⟨members, hMembers, hLookup ▸ .present .null⟩
    · exact ⟨members, hMembers, hLookup ▸ .absent⟩
    · exact ⟨members, hMembers, hLookup ▸ .present (.some hForm.ne_null hForm)⟩

/-! ## Answers -/

/-- What becomes of a result part. -/
theorem ResultPart.decodeClusterState_eq {envelope data : Json} (h : ResultPart envelope data) :
    decodeClusterState envelope =
      match decodeClusterData data with
      | .error fault => .error (.malformed "getClusterState" fault.text)
      | .ok none => .error (.missingData "getClusterState" envelope)
      | .ok (some state) => .ok state := by
  rw [decodeClusterState, h.decodeData_eq]
  cases decodeClusterData data with
  | error fault => rfl
  | ok found => cases found <;> rfl

theorem ResultPart.decodeClusterState_eq_ok_iff {envelope data : Json} {state : ClusterState}
    (h : ResultPart envelope data) :
    decodeClusterState envelope = .ok state ↔
      ∃ cluster, ClusterOf data cluster ∧ ClusterForm cluster state := by
  have hFound : decodeClusterData data = .ok (some state) ↔
      ∃ cluster, ClusterOf data cluster ∧ ClusterForm cluster state := by
    simp [decodeClusterData_eq_ok_iff]
  rw [h.decodeClusterState_eq, ← hFound]
  cases decodeClusterData data with
  | error fault => simp
  | ok found => cases found <;> simp

theorem ResultPart.decodeClusterState_eq_missingData_iff {envelope data : Json}
    (h : ResultPart envelope data) :
    decodeClusterState envelope = .error (.missingData "getClusterState" envelope) ↔
      LeavesOut data := by
  have hFound : decodeClusterData data = .ok none ↔ LeavesOut data := by
    simp [decodeClusterData_eq_ok_iff]
  rw [h.decodeClusterState_eq, ← hFound]
  cases decodeClusterData data with
  | error fault => simp
  | ok found => cases found <;> simp

/-- The state of the cluster is read exactly where the answer has its grammar, and with what its members
say.  An answer without a result part, or with one that leaves the cluster out, is reported whole, and every
other one is malformed. -/
theorem decodeClusterState_grammar (envelope : Json) :
    (decodeClusterState envelope = .error (.missingData "getClusterState" envelope) ↔
      (¬ ∃ data, ResultPart envelope data) ∨
        ∃ data, ResultPart envelope data ∧ LeavesOut data) ∧
    (∀ state, decodeClusterState envelope = .ok state ↔
      ∃ data cluster, ResultPart envelope data ∧ ClusterOf data cluster ∧
        ClusterForm cluster state) ∧
    (decodeClusterState envelope = .error (.missingData "getClusterState" envelope) ∨
      (∃ state, decodeClusterState envelope = .ok state) ∨
        ∃ message, decodeClusterState envelope = .error (.malformed "getClusterState" message)) := by
  by_cases hPart : ∃ data, ResultPart envelope data
  · obtain ⟨data, hData⟩ := hPart
    have hSame {other : Json} (hOther : ResultPart envelope other) : other = data := by
      rw [← data?_eq_some_iff] at hData hOther
      exact Option.some.inj (hOther.symm.trans hData)
    refine ⟨hData.decodeClusterState_eq_missingData_iff.trans ⟨?_, ?_⟩, fun state =>
      hData.decodeClusterState_eq_ok_iff.trans ⟨?_, ?_⟩, ?_⟩
    · exact fun hLeavesOut => .inr ⟨data, hData, hLeavesOut⟩
    · rintro (hNone | ⟨other, hOther, hLeavesOut⟩)
      · exact absurd ⟨data, hData⟩ hNone
      · exact hSame hOther ▸ hLeavesOut
    · rintro ⟨cluster, hCluster, hForm⟩
      exact ⟨data, cluster, hData, hCluster, hForm⟩
    · rintro ⟨other, cluster, hOther, hCluster, hForm⟩
      exact ⟨cluster, hSame hOther ▸ hCluster, hForm⟩
    · rw [hData.decodeClusterState_eq]
      cases decodeClusterData data with
      | error fault => exact .inr (.inr ⟨fault.text, rfl⟩)
      | ok found =>
        cases found with
        | none => exact .inl rfl
        | some state => exact .inr (.inl ⟨state, rfl⟩)
  · have hMissing : decodeClusterState envelope =
        .error (.missingData "getClusterState" envelope) := by
      rw [decodeClusterState, decodeData_of_not_resultPart _ _ hPart]
      rfl
    refine ⟨iff_of_true hMissing (.inl hPart), fun state => ?_, .inl hMissing⟩
    rw [hMissing]
    refine iff_of_false nofun ?_
    rintro ⟨data, -, hData, -⟩
    exact hPart ⟨data, hData⟩

/-! ## What the endpoint tells about itself -/

/-- A member that is absent or null. -/
def Unset (member : Option Json) : Prop := member = none ∨ member = some .null

/-- The cluster tells this text as the uri of the endpoint itself. -/
def TellsSelf (cluster : Json) (uri : String) : Prop :=
  ∃ members self inner, Members clusterFields cluster members ∧
    members.lookup "self" = some self ∧ Members ["uri", "uuid"] self inner ∧
      inner.lookup "uri" = some (.string uri)

/-- The cluster tells no uri of the endpoint: nothing about the endpoint, or no uri among that. -/
def HidesSelf (cluster : Json) : Prop :=
  ∃ members, Members clusterFields cluster members ∧
    (Unset (members.lookup "self") ∨
      ∃ self inner, members.lookup "self" = some self ∧ Members ["uri", "uuid"] self inner ∧
        Unset (inner.lookup "uri"))

theorem unset_or_text {member : Option Json} {text : Option String}
    (h : Default (Nullable Text) none member text) :
    (Unset member ∧ text = none) ∨ ∃ s, member = some (.string s) ∧ text = some s := by
  rcases h with _ | _ | ⟨-, rfl⟩
  · exact .inl ⟨.inl rfl, rfl⟩
  · exact .inl ⟨.inr rfl, rfl⟩
  · exact .inr ⟨_, rfl, rfl⟩

/-- The uri of a state is the one that was told, and empty where none was. -/
theorem ClusterForm.self_cases {cluster : Json} {state : ClusterState}
    (h : ClusterForm cluster state) :
    TellsSelf cluster state.selfUri ∨ (HidesSelf cluster ∧ state.selfUri = "") := by
  obtain ⟨members, hMembers, hState⟩ := h
  obtain ⟨told, hSelf, hUri, -⟩ := hState.self
  rw [hUri]
  generalize hLookup : members.lookup "self" = member at hSelf
  rcases hSelf with _ | _ | ⟨-, inner, hInner, hText, -⟩
  · exact .inr ⟨⟨members, hMembers, .inl (.inl hLookup)⟩, rfl⟩
  · exact .inr ⟨⟨members, hMembers, .inl (.inr hLookup)⟩, rfl⟩
  · rcases unset_or_text hText with ⟨hUnset, hNone⟩ | ⟨uri, hTold, hSome⟩
    · refine .inr ⟨⟨members, hMembers, .inr ⟨_, inner, hLookup, hInner, hUnset⟩⟩, ?_⟩
      simp [hNone]
    · refine .inl ⟨members, _, inner, hMembers, hLookup, hInner, ?_⟩
      simp [hTold, hSome]

theorem members_unique {names : List String} {json : Json} {members others : List (String × Json)}
    (h : Members names json members) (hOther : Members names json others) : members = others := by
  cases h <;> cases hOther <;> rfl

/-- A cluster does not both tell a uri and tell none. -/
theorem TellsSelf.not_hidesSelf {cluster : Json} {uri : String} (h : TellsSelf cluster uri) :
    ¬ HidesSelf cluster := by
  obtain ⟨members, self, inner, hMembers, hSelf, hInner, hUri⟩ := h
  rintro ⟨others, hOthers, hHidden⟩
  obtain rfl := members_unique hMembers hOthers
  rcases hHidden with (hNone | hNull) | ⟨other, otherInner, hOther, hOtherInner, hUnset⟩
  · cases hSelf.symm.trans hNone
  · cases hSelf.symm.trans hNull
    cases hInner
  · cases hSelf.symm.trans hOther
    obtain rfl := members_unique hInner hOtherInner
    rcases hUnset with hNone | hNull
    · cases hUri.symm.trans hNone
    · cases hUri.symm.trans hNull

theorem clusterOf_unique {data cluster other : Json} (h : ClusterOf data cluster)
    (hOther : ClusterOf data other) : cluster = other := by
  cases h with
  | member hLookup =>
    cases hOther with
    | member hSame => exact Option.some.inj (hLookup.symm.trans hSame)
  | only =>
    cases hOther
    rfl

/-- A cluster tells at most one uri. -/
theorem TellsSelf.unique {cluster : Json} {uri other : String} (h : TellsSelf cluster uri)
    (hOther : TellsSelf cluster other) : uri = other := by
  obtain ⟨members, self, inner, hMembers, hSelf, hInner, hUri⟩ := h
  obtain ⟨_, _, _, hMembers', hSelf', hInner', hUri'⟩ := hOther
  obtain rfl := members_unique hMembers hMembers'
  cases hSelf.symm.trans hSelf'
  obtain rfl := members_unique hInner hInner'
  cases hUri.symm.trans hUri'
  rfl

/-- The uri in the state of a cluster is the one that the cluster tells, or the empty one if it tells
none. -/
theorem ClusterForm.selfUri_eq_iff {cluster : Json} {state : ClusterState} {uri : String}
    (h : ClusterForm cluster state) :
    state.selfUri = uri ↔ TellsSelf cluster uri ∨ (HidesSelf cluster ∧ uri = "") := by
  rcases h.self_cases with hTells | ⟨hHides, hEmpty⟩
  · have hNotHidden : ¬ HidesSelf cluster := hTells.not_hidesSelf
    simp only [hNotHidden, false_and, or_false]
    exact ⟨fun hUri => hUri ▸ hTells, hTells.unique⟩
  · have hNotTold : ¬ TellsSelf cluster uri := fun hTells => hTells.not_hidesSelf hHides
    simp only [hNotTold, false_or, hHides, true_and, hEmpty]
    exact eq_comm

/-- The cluster that an envelope tells of. -/
def ToldCluster (envelope cluster : Json) : Prop :=
  ∃ data, ResultPart envelope data ∧ ClusterOf data cluster

/-- An envelope tells of at most one cluster. -/
theorem ToldCluster.unique {envelope cluster other : Json} (h : ToldCluster envelope cluster)
    (hOther : ToldCluster envelope other) : cluster = other := by
  obtain ⟨data, hData, hCluster⟩ := h
  obtain ⟨data', hData', hCluster'⟩ := hOther
  rw [← data?_eq_some_iff] at hData hData'
  cases hData.symm.trans hData'
  exact clusterOf_unique hCluster hCluster'

/-- A state is read where an envelope tells of a cluster with this state. -/
theorem decodeClusterState_eq_ok_iff {envelope : Json} {state : ClusterState} :
    decodeClusterState envelope = .ok state ↔
      ∃ cluster, ToldCluster envelope cluster ∧ ClusterForm cluster state := by
  constructor
  · intro hDecoded
    by_cases hPart : ∃ data, ResultPart envelope data
    · obtain ⟨data, hData⟩ := hPart
      obtain ⟨cluster, hCluster, hForm⟩ := hData.decodeClusterState_eq_ok_iff.mp hDecoded
      exact ⟨cluster, ⟨data, hData, hCluster⟩, hForm⟩
    · rw [decodeClusterState, decodeData_of_not_resultPart _ _ hPart] at hDecoded
      cases hDecoded
  · rintro ⟨cluster, ⟨data, hData, hCluster⟩, hForm⟩
    exact hData.decodeClusterState_eq_ok_iff.mpr ⟨cluster, hCluster, hForm⟩

end Wire

end ClusterBootstrap
