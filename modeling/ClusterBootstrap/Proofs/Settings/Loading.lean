import Mathlib.Data.List.Infix
import ClusterBootstrap.Proofs.Settings.Layers

/-!
# Loaded settings

Defaults, file, environment and command line are layers over each other, and each leaf of the loaded
settings has the value of the highest layer that sets it.  No layer says anything about a leaf that it does
not set.
-/

namespace ClusterBootstrap.Settings

/-! ## Converting a tree -/

namespace Conversion

/-- What is read along a path is read along the rest of it, from the entry that it begins with. -/
theorem exists_lookup {α : Type} {convert : Conversion α} {tree : Tree} {name : String}
    {path : List String} {value : α}
    (hRead : (tree.at? (name :: path)).map convert = some (.ok value)) :
    ∃ inner, tree.asTable.2.lookup name = some inner ∧
      (inner.at? path).map convert = some (.ok value) := by
  obtain ⟨found, hAt, hConvert⟩ := Option.map_eq_some_iff.mp hRead
  obtain ⟨inner, hInner, hRest⟩ := Option.bind_eq_some_iff.mp hAt
  refine ⟨inner, hInner, ?_⟩
  rw [hRest, Option.map_some, hConvert]

/-- What has an entry is a table. -/
theorem source_of_lookup {tree found : Tree} {name : String}
    (hLookup : tree.asTable.2.lookup name = some found) (expected : String) :
    source expected tree = .ok { entries := tree.asTable.2, items := [] } := by
  cases tree with
  | scalar origin s => cases hLookup
  | list origin items => cases hLookup
  | table origin entries => rfl

theorem field_of_lookup {α : Type} {entries : List (String × Tree)} {name : String} {found : Tree}
    {convert : Conversion α} {value : α} (hLookup : entries.lookup name = some found)
    (hConvert : convert found = .ok value) (index : Nat) (default : α) :
    field { entries, items := [] } name index convert default = .ok value := by
  rw [field, hLookup]
  show (convert found).mapError (LoadFault.within name) = .ok value
  rw [hConvert]
  rfl

/-- The client's settings are read from its table leaf by leaf. -/
theorem client_of_holds {tree inner : Tree} {settings : BootstrapSettings}
    (hHolds : ∀ leaf : Leaf, tree.Holds leaf (leaf.get settings))
    (hInner : tree.asTable.2.lookup "client" = some inner) :
    client inner = .ok settings.client := by
  have hLookup : ∀ (leaf : Leaf) (name : String), leaf.path = ["client", name] →
      ∃ found, inner.asTable.2.lookup name = some found ∧
        leaf.kind.convert found = .ok (leaf.get settings) := by
    intro leaf name hPath
    have hLeaf := hHolds leaf
    rw [Tree.Holds, hPath] at hLeaf
    obtain ⟨own, hOwn, hRest⟩ := exists_lookup hLeaf
    rw [hInner] at hOwn
    cases hOwn
    obtain ⟨found, hFound, hValue⟩ := exists_lookup hRest
    exact ⟨found, hFound, Option.some.inj hValue⟩
  have hField : ∀ (leaf : Leaf) (name : String), leaf.path = ["client", name] →
      ∀ index default, field { entries := inner.asTable.2, items := [] } name index
        leaf.kind.convert default = .ok (leaf.get settings) := by
    intro leaf name hPath index default
    obtain ⟨found, hFound, hConvert⟩ := hLookup leaf name hPath
    exact field_of_lookup hFound hConvert index default
  obtain ⟨found, hFound, -⟩ := hLookup .endpoint _ rfl
  rw [client, source_of_lookup hFound, ok_bind]
  dsimp only
  have hEndpoint := hField .endpoint _ rfl 0 ClientSettings.default.endpoint
  have hApiPath := hField .apiPath _ rfl 1 ClientSettings.default.apiPath
  have hProbe := hField .probeTimeout _ rfl 2 ClientSettings.default.probeTimeout
  have hRequest := hField .requestTimeout _ rfl 3 ClientSettings.default.requestTimeout
  have hUserAgent := hField .userAgent _ rfl 4 ClientSettings.default.userAgent
  simp only [Leaf.kind, Kind.convert, Leaf.get] at hEndpoint hApiPath hProbe hRequest hUserAgent
  rw [hEndpoint, hApiPath, hProbe, hRequest, hUserAgent]
  rfl

/-- Settings are read from a tree leaf by leaf. -/
theorem bootstrap_of_holds {tree : Tree} {settings : BootstrapSettings}
    (hHolds : ∀ leaf : Leaf, tree.Holds leaf (leaf.get settings)) :
    bootstrap tree = .ok settings := by
  obtain ⟨inner, hInner, -⟩ := exists_lookup (hHolds .endpoint)
  obtain ⟨roles, hRoles, hRolesValue⟩ := exists_lookup (hHolds .roles)
  obtain ⟨fallback, hFallback, hFallbackValue⟩ := exists_lookup (hHolds .fallback)
  have hClient := client_of_holds hHolds hInner
  have hRolesField : field { entries := tree.asTable.2, items := [] } "roles" 1 (list string)
      BootstrapSettings.default.roles = .ok settings.roles :=
    field_of_lookup hRoles (Option.some.inj hRolesValue) 1 _
  have hFallbackField : field { entries := tree.asTable.2, items := [] } "fallback" 2
      Conversion.fallback BootstrapSettings.default.fallback = .ok settings.fallback :=
    field_of_lookup hFallback (Option.some.inj hFallbackValue) 2 _
  rw [bootstrap, source_of_lookup hInner, ok_bind]
  dsimp only
  rw [field_of_lookup hInner hClient, hRolesField, hFallbackField]
  rfl

end Conversion

/-! ## The lowest and the highest layer -/

/-- The settings with the given leaves. -/
def ofLeaves (value : (leaf : Leaf) → leaf.Value) : BootstrapSettings where
  client := {
    endpoint := value .endpoint
    apiPath := value .apiPath
    probeTimeout := value .probeTimeout
    requestTimeout := value .requestTimeout
    userAgent := value .userAgent }
  roles := value .roles
  fallback := value .fallback

theorem get_ofLeaves (value : (leaf : Leaf) → leaf.Value) (leaf : Leaf) :
    leaf.get (ofLeaves value) = value leaf := by
  cases leaf <;> rfl

/-- The defaults have a value for every leaf. -/
theorem defaultLayer_holds (leaf : Leaf) :
    (Tree.overlay defaultLayer .fresh).Holds leaf (leaf.get .default) := by
  cases leaf with
  | endpoint | apiPath | probeTimeout | requestTimeout | userAgent | roles => rfl
  | fallback =>
    -- a policy is read by its name in lower case, which is compared as a text
    have hName : FallbackPolicy.ofName? "first-node".toLower = some .firstNode := by decide +kernel
    exact congrArg some (Conversion.fallback_named hName none)

/-- What a command line sets; an empty list of roles sets none. -/
def Overrides.ofArguments (args : Arguments) : Overrides
  | .endpoint => args.endpoint
  | .apiPath => none
  | .probeTimeout => args.probeTimeout
  | .requestTimeout => args.requestTimeout
  | .userAgent => none
  | .roles => if args.roles.isEmpty then none else some args.roles
  | .fallback => if args.strictSelf then some .fail else none

theorem get_applyArguments (args : Arguments) (settings : BootstrapSettings) (leaf : Leaf) :
    leaf.get (applyArguments args settings) =
      (Overrides.ofArguments args leaf).getD (leaf.get settings) := by
  cases leaf with
  | endpoint | apiPath | probeTimeout | requestTimeout | userAgent => rfl
  | roles =>
    show (if args.roles.isEmpty then settings.roles else args.roles) =
      (if args.roles.isEmpty then none else some args.roles).getD settings.roles
    cases args.roles.isEmpty <;> rfl
  | fallback =>
    show (if args.strictSelf then .fail else settings.fallback) =
      (if args.strictSelf then some FallbackPolicy.fail else none).getD settings.fallback
    cases args.strictSelf <;> rfl

/-! ## All layers -/

/-- What the file of a command line sets; nothing if no file is named. -/
inductive FileLayer (args : Arguments) (files : Files) : Overrides → Prop where
  | unnamed (hConfig : args.config = none) : FileLayer args files fun _ => none
  | read {name file text : String} {entries : List (String × Toml)} {layer : Overrides}
      (hConfig : args.config = some name) (hFile : findFile? files name = some (file, text))
      (hToml : Toml.parse? text = some entries) (hSets : FileSets entries layer) :
      FileLayer args files layer

/-- The value of the highest of some layers that sets a leaf; the default if none does. -/
def Leaf.highest (layers : List Overrides) (leaf : Leaf) : leaf.Value :=
  (layers.findSome? fun layer => layer leaf).getD (leaf.get .default)

theorem Leaf.highest_cons (layer : Overrides) (layers : List Overrides) (leaf : Leaf) :
    leaf.highest (layer :: layers) = (layer leaf).getD (leaf.highest layers) := by
  rw [highest, List.findSome?_cons]
  cases layer leaf with
  | none => rfl
  | some value => rfl

/-- Settings are loaded over the entries of the file, which are laid over any values as the layer says. -/
theorem FileLayer.load_eq {args : Arguments} {files : Files} {layer : Overrides}
    (hLayer : FileLayer args files layer) :
    ∃ entries, (∀ environment, load args files environment =
        (Conversion.bootstrap (Tree.overlay (Environment.layer environment)
          (Tree.overlay entries (Tree.overlay defaultLayer .fresh)))).map (applyArguments args)) ∧
      ∀ {root : Tree} {leaf : Leaf} {value : leaf.Value}, root.Holds leaf value →
        (Tree.overlay entries root).Holds leaf ((layer leaf).getD value) := by
  cases hLayer with
  | unnamed hConfig =>
    refine ⟨[], fun environment => ?_, fun hRoot => hRoot⟩
    rw [load, hConfig]
    rfl
  | @read name file text entries layer hConfig hFile hToml hSets =>
    refine ⟨Tree.ofEntries file entries, fun environment => ?_, (hSets.writes file).holds hSets.all⟩
    have hEntries : fileLayer files name = .ok (Tree.ofEntries file entries) := by
      rw [fileLayer, hFile]
      dsimp only
      rw [hToml]
    rw [load, hConfig]
    dsimp only
    rw [hEntries]
    rfl

/-- Unrelated variables set nothing. -/
theorem layer_filter_unrelated (environment : List (String × String)) :
    Environment.layer (environment.filter fun entry => ¬ Unrelated entry.1) =
      Environment.layer environment := by
  induction environment with
  | nil => rfl
  | cons entry environment ih =>
    by_cases hUnrelated : Unrelated entry.1
    · rw [List.filter_cons_of_neg (by simpa using hUnrelated), ih, Environment.layer_cons,
        settingName?_of_unrelated hUnrelated]
      rfl
    · rw [List.filter_cons_of_pos (by simpa using hUnrelated), Environment.layer_cons,
        Environment.layer_cons, ih]

/-- Every leaf of the loaded settings has the value of the highest layer that sets it, and unrelated
variables do not count. -/
theorem load_layered {args : Arguments} {files : Files} {environment : List (String × String)}
    {fileOverrides environmentOverrides : Overrides} (hFile : FileLayer args files fileOverrides)
    (hEnvironment : EnvironmentSets environment environmentOverrides) :
    (∃ settings, load args files environment = .ok settings ∧ ∀ leaf : Leaf,
      leaf.get settings =
        leaf.highest [Overrides.ofArguments args, environmentOverrides, fileOverrides]) ∧
    load args files (environment.filter fun entry => ¬ Unrelated entry.1) =
      load args files environment := by
  obtain ⟨entries, hLoad, hOverlay⟩ := hFile.load_eq
  have hHolds : ∀ leaf : Leaf, (Tree.overlay (Environment.layer environment)
      (Tree.overlay entries (Tree.overlay defaultLayer .fresh))).Holds leaf
        (leaf.highest [environmentOverrides, fileOverrides]) := by
    intro leaf
    rw [Leaf.highest_cons, Leaf.highest_cons]
    have hOverFile := hOverlay (defaultLayer_holds leaf)
    exact hEnvironment.writes.holds (fun _ => hEnvironment.mem_names) hOverFile
  -- the command line comes last, over what the tree was converted to
  let settings := ofLeaves (Leaf.highest [environmentOverrides, fileOverrides])
  have hBootstrap : Conversion.bootstrap (Tree.overlay (Environment.layer environment)
      (Tree.overlay entries (Tree.overlay defaultLayer .fresh))) = .ok settings := by
    apply Conversion.bootstrap_of_holds
    intro leaf
    rw [get_ofLeaves]
    exact hHolds leaf
  refine ⟨⟨applyArguments args settings, ?_, ?_⟩, ?_⟩
  · rw [hLoad, hBootstrap]
    rfl
  · intro leaf
    rw [get_applyArguments, get_ofLeaves]
    exact (leaf.highest_cons _ _).symm
  · rw [hLoad, hLoad, layer_filter_unrelated]

/-- A file that sets the roles, the fallback and the endpoint. -/
def storageFile : String :=
  "roles = [\"vshard-storage\"]\nfallback = \"fail\"\n\n[client]\nendpoint = \"10.0.0.1:9000\"\n"

theorem parse?_storageFile :
    Toml.parse? storageFile = some [
      ("roles", .array [.string "vshard-storage"]), ("fallback", .string "fail"),
      ("client", .table [("endpoint", .string "10.0.0.1:9000")])] := by
  have hMark : Toml.withoutMark storageFile.toList = storageFile.toList := by rfl
  have hLines : Toml.statements? (storageFile.toList.length + 1) storageFile.toList =
      some [.setting ["roles"] (.array [.string "vshard-storage"]),
        .setting ["fallback"] (.string "fail"), .header ["client"],
        .setting ["endpoint"] (.string "10.0.0.1:9000")] := by
    rfl
  -- the lines are read first, and what they build is only then looked at
  rw [Toml.parse?, hMark, hLines]
  rfl

/-- What the file sets. -/
def storageOverrides : Overrides
  | .endpoint => some "10.0.0.1:9000"
  | .roles => some ["vshard-storage"]
  | .fallback => some .fail
  | .apiPath | .probeTimeout | .requestTimeout | .userAgent => none

/-- Variables that set the endpoint, a timeout and the roles, and one that is unrelated. -/
def routerEnvironment : List (String × String) :=
  [("KVCLUSTER_CLIENT__ENDPOINT", "10.0.0.2:9000"), ("HOME", "/root"),
    ("KVCLUSTER_CLIENT__REQUEST_TIMEOUT_SECONDS", "15"),
    ("KVCLUSTER_ROLES", "key-value,vshard-router")]

/-- What the variables set. -/
def routerOverrides : Overrides
  | .endpoint => some "10.0.0.2:9000"
  | .requestTimeout => some 15
  | .roles => some ["key-value", "vshard-router"]
  | .apiPath | .probeTimeout | .userAgent | .fallback => none

theorem fileSets_storage :
    FileSets [("roles", .array [.string "vshard-storage"]), ("fallback", .string "fail"),
      ("client", .table [("endpoint", .string "10.0.0.1:9000")])] storageOverrides where
  only := by
    have hRoles : Text.lower "roles" = Leaf.roles.name := by decide +kernel
    have hFallback : Text.lower "fallback" = Leaf.fallback.name := by decide +kernel
    have hEndpoint : Leaf.endpoint.name = "client." ++ Text.lower "endpoint" := by decide +kernel
    intro entry hMem
    simp only [List.mem_cons, List.not_mem_nil, or_false] at hMem
    rcases hMem with rfl | rfl | rfl
    · exact .leaf hRoles rfl rfl
    · exact .leaf hFallback rfl ⟨"fail", rfl, by decide +kernel⟩
    · apply EntrySets.client (by decide +kernel)
      intro field hField
      obtain rfl := List.mem_singleton.mp hField
      exact .leaf hEndpoint rfl rfl
  all leaf := by cases leaf <;> decide +kernel

theorem environmentSets_router : EnvironmentSets routerEnvironment routerOverrides where
  only := by
    intro entry hMem
    simp only [routerEnvironment, List.mem_cons, List.not_mem_nil, or_false] at hMem
    rcases hMem with rfl | rfl | rfl | rfl
    · exact Or.inr ⟨.endpoint, _, rfl, rfl, rfl, by decide +kernel⟩
    · exact Or.inl (by decide +kernel)
    · exact Or.inr ⟨.requestTimeout, _, rfl, rfl, by decide +kernel, by decide +kernel⟩
    · exact Or.inr ⟨.roles, _, rfl, rfl, by decide +kernel, by decide +kernel⟩
  all leaf := by cases leaf <;> decide +kernel

/-- A file, an environment and a command line over each other. -/
theorem load_storage_router :
    FileLayer { config := some "storage.toml", probeTimeout := some 2 }
      [("storage.toml", storageFile)] storageOverrides ∧
    EnvironmentSets routerEnvironment routerOverrides ∧
    ∃ settings, load { config := some "storage.toml", probeTimeout := some 2 }
        [("storage.toml", storageFile)] routerEnvironment = .ok settings ∧
      settings.client.endpoint = "10.0.0.2:9000" ∧ settings.client.apiPath = "/admin/api" ∧
      settings.client.probeTimeout = 2 ∧ settings.client.requestTimeout = 15 ∧
      settings.roles = ["key-value", "vshard-router"] ∧ settings.fallback = .fail := by
  have hFound : findFile? [("storage.toml", storageFile)] "storage.toml" =
      some ("storage.toml", storageFile) := by decide +kernel
  have hFile : FileLayer { config := some "storage.toml", probeTimeout := some 2 }
      [("storage.toml", storageFile)] storageOverrides :=
    .read rfl hFound parse?_storageFile fileSets_storage
  obtain ⟨⟨settings, hLoad, hLeaf⟩, -⟩ := load_layered hFile environmentSets_router
  exact ⟨hFile, environmentSets_router, settings, hLoad, hLeaf .endpoint, hLeaf .apiPath,
    hLeaf .probeTimeout, hLeaf .requestTimeout, hLeaf .roles, hLeaf .fallback⟩

/-- The case of a variable's name does not count: one that does not even begin with a capital `K` sets the
roles as well. -/
theorem load_lowercase_variable :
    ¬ "K".toList <+: "kvcluster_roles".toList ∧
      load {} [] [("kvcluster_roles", "lower")] =
        .ok { BootstrapSettings.default with roles := ["lower"] } ∧
      load {} [] [] = .ok .default := by
  decide +kernel

end ClusterBootstrap.Settings
