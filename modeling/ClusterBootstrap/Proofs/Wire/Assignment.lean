import ClusterBootstrap.Proofs.Json.RoundTrip
import ClusterBootstrap.Proofs.Wire.Servers

/-!
# The body of an assignment

An assignment describes its node as the control plane itself lists it.  So the reader of listed servers
can read the variables of an assignment, and it finds the node that was described.
-/

namespace ClusterBootstrap.Wire

open Json (Default Members Nullable Readable Text)

/-- An answer that lists one server. -/
def listing (server : Json) : Json :=
  .object [("data", .object [("serverList", .array [server])])]

/-- The variables of an assignment by ascending names. -/
def sortedArguments (request : AssignmentRequest) : List (String × Json) :=
  let node := request.node
  [("alias", .ofOption node.aliasName), ("message", .ofOption node.message),
    ("replicaset", replicasetRef node.replicaset), ("roles", .strings request.roles),
    ("status", .ofOption node.status), ("uri", .string node.uri), ("uuid", .ofOption node.uuid)]

/-! ## The document is read back -/

theorem readable_ofOption (depth : Nat) (text : Option String) :
    Readable depth (.ofOption text) := by
  cases text with
  | none => exact .null
  | some s => exact .string s

theorem readable_strings (depth : Nat) (texts : List String) :
    Readable (depth + 1) (.strings texts) := by
  refine .array fun item hItem => ?_
  obtain ⟨s, -, rfl⟩ := List.mem_map.mp hItem
  exact .string s

theorem readable_replicasetRef (depth : Nat) (replicaset : Option String) :
    Readable (depth + 1) (replicasetRef replicaset) := by
  cases replicaset with
  | none => exact .null
  | some uuid => exact .object (List.forall_mem_singleton.mpr (.string uuid))

theorem readable_assignmentDocument (request : AssignmentRequest) :
    Readable Json.depthLimit (assignmentDocument request) := by
  have hArguments : Readable 126 (arguments request) := by
    refine .object ?_
    simp only [List.forall_mem_cons]
    exact ⟨.string _, readable_ofOption _ _, readable_ofOption _ _, readable_ofOption _ _,
      readable_ofOption _ _, readable_replicasetRef _ _, readable_strings _ _,
      fun _ hMem => absurd hMem List.not_mem_nil⟩
  exact .object (List.forall_mem_cons.mpr ⟨.string _, List.forall_mem_singleton.mpr hArguments⟩)

theorem normal_ofOption (text : Option String) : (Json.ofOption text).normal = .ofOption text := by
  cases text <;> rfl

theorem normal_replicasetRef (replicaset : Option String) :
    (replicasetRef replicaset).normal = replicasetRef replicaset := by
  cases replicaset <;> rfl

theorem normal_strings (texts : List String) : (Json.strings texts).normal = .strings texts := by
  have hItems : Json.normalItems (texts.map .string) = texts.map .string := by
    induction texts with
    | nil => rfl
    | cons s texts ih =>
      rw [List.map_cons, Json.normalItems, ih]
      rfl
  rw [Json.strings, Json.normal, hItems]

theorem normal_arguments (request : AssignmentRequest) :
    (arguments request).normal = .object (sortedArguments request) := by
  simp only [arguments, Json.normal, Json.normalMembers, normal_ofOption, normal_replicasetRef,
    normal_strings]
  simp only [Json.ofMembers, List.foldl_cons, List.foldl_nil, Json.insertMember, String.reduceLT,
    String.reduceEq, if_false, if_true, sortedArguments]

theorem normal_assignmentDocument (request : AssignmentRequest) :
    (assignmentDocument request).normal = .object [
      ("query", .string Operation.assignRole.query),
      ("variables", .object (sortedArguments request))] := by
  simp only [assignmentDocument, Json.normal, Json.normalMembers, normal_arguments]
  simp only [Json.ofMembers, List.foldl_cons, List.foldl_nil, Json.insertMember, String.reduceLT,
    String.reduceEq, if_false]

theorem parse_eq_sortedArguments (request : AssignmentRequest) :
    Json.parse (assignmentBody request) = .ok (.object [
      ("query", .string Operation.assignRole.query),
      ("variables", .object (sortedArguments request))]) := by
  rw [assignmentBody, Json.parse_compact (readable_assignmentDocument request),
    normal_assignmentDocument]

/-! ## The variables are those of a listed server -/

theorem nullable_ofOption (text : Option String) : Nullable Text (.ofOption text) text := by
  cases text with
  | none => exact .null
  | some s => exact .some (by simp [Json.ofOption]) rfl

theorem default_ofOption {members : List (String × Json)} {name : String} {text : Option String}
    (hLookup : members.lookup name = some (.ofOption text)) :
    Default (Nullable Text) none (members.lookup name) text :=
  hLookup ▸ .present (nullable_ofOption text)

theorem replicasetForm_ref (uuid : String) :
    ReplicasetForm (.object [("uuid", .string uuid)]) (some uuid) :=
  ⟨_, .object, default_ofOption rfl⟩

theorem serverForm_sortedArguments (request : AssignmentRequest) :
    ServerForm (.object (sortedArguments request)) request.node := by
  refine ⟨_, .object, rfl, default_ofOption rfl, default_ofOption rfl, default_ofOption rfl,
    default_ofOption rfl, ?_⟩
  show ∃ reference, Default (Nullable ReplicasetForm) none
    (some (replicasetRef request.node.replicaset)) reference ∧
      request.node.replicaset = reference.join
  cases request.node.replicaset with
  | none => exact ⟨none, .present .null, rfl⟩
  | some uuid =>
    exact ⟨some (some uuid), .present (.some (by simp [replicasetRef]) (replicasetForm_ref uuid)),
      rfl⟩

/-- An answer that lists one server is read as the list of its node. -/
theorem decodeServers_listing {server : Json} {node : Node} (hServer : ServerForm server node) :
    decodeServers (listing server) = .ok [node] := by
  have hData : ResultPart (listing server) (.object [("serverList", .array [server])]) :=
    ⟨_, rfl, rfl, by simp⟩
  rw [decodeServers, hData.decodeData_eq, mapError_eq_ok_iff, decodeServerList_eq_ok_iff]
  exact ⟨[server], .member rfl, .cons hServer .nil⟩

theorem strings_injective {texts others : List String}
    (hStrings : Json.strings texts = .strings others) : texts = others := by
  rw [Json.strings, Json.strings, Json.array.injEq] at hStrings
  exact List.map_injective_iff.mpr (fun s t h => Json.string.inj h) hStrings

/-- The variables tell the assignment. -/
theorem sortedArguments_injective {request other : AssignmentRequest}
    (hSame : sortedArguments other = sortedArguments request) : other = request := by
  have hRoles : other.roles = request.roles :=
    strings_injective (Option.some.inj (congrArg (List.lookup "roles") hSame))
  have hNode : other.node = request.node := by
    have hListed := decodeServers_listing (serverForm_sortedArguments other)
    rw [hSame, decodeServers_listing (serverForm_sortedArguments request), Except.ok.injEq,
      List.singleton_inj] at hListed
    exact hListed.symm
  cases other
  cases request
  simp only [AssignmentRequest.mk.injEq]
  exact ⟨hNode, hRoles⟩

/-- The body of an assignment reads as the text of the operation beside its variables: the roles as they
are, and a description in which the reader of listed servers finds the node.  So no two assignments have
the same body. -/
theorem assignmentBody_reads_back (request : AssignmentRequest) :
    (∃ members,
      Json.parse (assignmentBody request) = .ok (.object [
        ("query", .string Operation.assignRole.query), ("variables", .object members)]) ∧
      members.map Prod.fst =
        ["alias", "message", "replicaset", "roles", "status", "uri", "uuid"] ∧
      members.lookup "roles" = some (.strings request.roles) ∧
      decodeServers (listing (.object members)) = .ok [request.node]) ∧
    ∀ other, assignmentBody other = assignmentBody request → other = request := by
  refine ⟨⟨sortedArguments request, parse_eq_sortedArguments request, rfl, rfl,
    decodeServers_listing (serverForm_sortedArguments request)⟩, fun other hBody => ?_⟩
  have hParse := parse_eq_sortedArguments other
  rw [hBody, parse_eq_sortedArguments request, Except.ok.injEq] at hParse
  apply sortedArguments_injective
  simpa using hParse.symm

end ClusterBootstrap.Wire
