import ClusterBootstrap.Proofs.Settings.Leaf

/-!
# Layers of settings

A layer sets some of the leaves.  What a file and what an environment has to hold for that is told here
entry by entry.  Laid over a tree of values, a layer gives the leaves that it sets its own values, and every
other leaf keeps the value that the tree had for it.
-/

namespace ClusterBootstrap.Settings

/-- What a layer sets: values for some of the leaves. -/
abbrev Overrides := (leaf : Leaf) → Option leaf.Value

namespace Tree

/-- A tree has a value for a leaf, whatever it was converted from. -/
def Holds (tree : Tree) (leaf : Leaf) (value : leaf.Value) : Prop :=
  (tree.at? leaf.path).map leaf.kind.convert = some (.ok value)

theorem Holds.of_at?_eq {tree other : Tree} {leaf : Leaf} {value : leaf.Value}
    (hHolds : tree.Holds leaf value) (hSame : other.at? leaf.path = tree.at? leaf.path) :
    other.Holds leaf value := by
  rw [Holds, hSame]
  exact hHolds

end Tree

/-! ## Changes of a tree -/

/-- A change of a tree gives the leaves of these names the values that a layer has for them, and leaves
all others as they are. -/
structure Writes (layer : Overrides) (names : List String) (change : Tree → Tree) : Prop where
  sets : ∀ leaf : Leaf, leaf.name ∈ names →
    ∃ value, layer leaf = some value ∧ ∀ root, (change root).Holds leaf value
  keeps : ∀ leaf : Leaf, leaf.name ∉ names →
    ∀ root, (change root).at? leaf.path = root.at? leaf.path

namespace Writes

variable {layer : Overrides}

/-- Of two changes the later one counts, and they agree where both set a leaf. -/
theorem comp {names more : List String} {change next : Tree → Tree}
    (hChange : Writes layer names change) (hNext : Writes layer more next) :
    Writes layer (names ++ more) (next ∘ change) where
  sets leaf hMem := by
    by_cases hMore : leaf.name ∈ more
    · obtain ⟨value, hLayer, hHolds⟩ := hNext.sets leaf hMore
      exact ⟨value, hLayer, fun root => hHolds (change root)⟩
    · have hNames : leaf.name ∈ names := (List.mem_append.mp hMem).resolve_right hMore
      obtain ⟨value, hLayer, hHolds⟩ := hChange.sets leaf hNames
      exact ⟨value, hLayer, fun root => (hHolds root).of_at?_eq (hNext.keeps leaf hMore _)⟩
  keeps leaf hNot root := by
    rw [List.mem_append, not_or] at hNot
    exact (hNext.keeps leaf hNot.2 _).trans (hChange.keeps leaf hNot.1 root)

/-- A value that is put at the place of a leaf shows at no other leaf. -/
theorem putAt {leaf : Leaf} {value : leaf.Value} {tree : Tree} (hLayer : layer leaf = some value)
    (hConvert : leaf.kind.convert tree = .ok value) :
    Writes layer [leaf.name] (Tree.putAt tree leaf.path) where
  sets other hMem := by
    obtain rfl : other = leaf := Leaf.name_injective (List.mem_singleton.mp hMem)
    refine ⟨value, hLayer, fun root => ?_⟩
    rw [Tree.Holds, Tree.at?_putAt_self, Option.map_some, hConvert]
  keeps other hNot root := by
    have hNe : other ≠ leaf := fun h => hNot (by rw [h]; exact List.mem_singleton_self _)
    apply Tree.at?_putAt_of_not_prefix
    · exact fun hPrefix => hNe (Leaf.eq_of_path_prefix hPrefix).symm
    · exact fun hPrefix => hNe (Leaf.eq_of_path_prefix hPrefix)

/-- A change that no leaf sees. -/
theorem of_keeps {names : List String} {change : Tree → Tree}
    (hNames : ∀ leaf : Leaf, leaf.name ∉ names)
    (hKeeps : ∀ (leaf : Leaf) root, (change root).at? leaf.path = root.at? leaf.path) :
    Writes layer names change where
  sets leaf hMem := absurd hMem (hNames leaf)
  keeps leaf _ := hKeeps leaf

/-- Changes one after the other. -/
theorem foldl {α : Type} {names : α → List String} {change : α → Tree → Tree} {items : List α}
    (hEach : ∀ item ∈ items, Writes layer (names item) (change item)) :
    Writes layer (items.flatMap names)
      fun root => items.foldl (fun root item => change item root) root := by
  induction items with
  | nil => exact of_keeps (fun _ => List.not_mem_nil) (fun _ _ => rfl)
  | cons item items ih =>
    have hRest := ih fun other hMem => hEach other (List.mem_cons_of_mem _ hMem)
    rw [List.flatMap_cons]
    exact (hEach item List.mem_cons_self).comp hRest

/-- A layer that sets no more leaves than are written is laid over the values there were. -/
theorem holds {names : List String} {change : Tree → Tree} (hWrites : Writes layer names change)
    (hAll : ∀ leaf : Leaf, (layer leaf).isSome → leaf.name ∈ names) {root : Tree} {leaf : Leaf}
    {value : leaf.Value} (hRoot : root.Holds leaf value) :
    (change root).Holds leaf ((layer leaf).getD value) := by
  by_cases hMem : leaf.name ∈ names
  · obtain ⟨own, hLayer, hHolds⟩ := hWrites.sets leaf hMem
    rw [hLayer]
    exact hHolds root
  · have hNone : layer leaf = none := by
      rw [← Option.not_isSome_iff_eq_none]
      exact fun hSome => hMem (hAll leaf hSome)
    rw [hNone]
    exact hRoot.of_at?_eq (hWrites.keeps leaf hMem root)

end Writes

/-! ## Entries -/

section Entries

variable {layer : Overrides}

/-- An entry under the name of a leaf. -/
theorem writes_leaf {leaf : Leaf} {value : leaf.Value} {name : String} {tree : Tree}
    (hName : Text.lower name = leaf.name) (hLayer : layer leaf = some value)
    (hConvert : leaf.kind.convert tree = .ok value) (hFlat : tree.Flat) :
    Writes layer [leaf.name] (Tree.set name tree) := by
  have hSet : Tree.set name tree = Tree.putAt tree leaf.path := by
    funext root
    apply Tree.set_flat _ hFlat leaf.path_ne_nil leaf.path_lower root
    rw [hName]
    exact leaf.path?_name
  rw [hSet]
  exact .putAt hLayer hConvert

/-- An entry of the client's table under the name of a leaf. -/
theorem writes_field {leaf : Leaf} {value : leaf.Value} {field : String} {tree : Tree}
    (hName : leaf.name = "client." ++ Text.lower field) (hLayer : layer leaf = some value)
    (hConvert : leaf.kind.convert tree = .ok value) (hFlat : tree.Flat) :
    Writes layer ["client." ++ Text.lower field]
      (Tree.inside "client" (Tree.setName field tree)) := by
  have hPath : leaf.path = ["client", Text.lower field] := Leaf.path_eq_client_iff.mpr hName
  have hSet : Tree.inside "client" (Tree.setName field tree) = Tree.putAt tree leaf.path := by
    funext root
    rw [hPath, Tree.putAt, Tree.inside, Tree.setName_flat hFlat]
    rfl
  rw [hSet, ← hName]
  exact .putAt hLayer hConvert

/-- An entry of the client's table that is no leaf. -/
theorem writes_foreign_field {field : String}
    (hForeign : ∀ leaf : Leaf, leaf.name ≠ "client." ++ Text.lower field) (tree : Tree) :
    Writes layer ["client." ++ Text.lower field]
      (Tree.inside "client" (Tree.setName field tree)) := by
  apply Writes.of_keeps
  · intro leaf hMem
    exact hForeign leaf (List.mem_singleton.mp hMem)
  · intro leaf root
    rcases leaf.path_cases with ⟨other, hPath⟩ | ⟨key, hPath, hMem⟩
    · have hOther : other ≠ Text.lower field := by
        rintro rfl
        exact hForeign leaf (Leaf.path_eq_client_iff.mp hPath)
      rw [hPath, Tree.at?_inside_self, Tree.at?_setName_of_ne hOther]
      exact Tree.at?_getD_fresh root "client" other []
    · have hNe : key ≠ "client" := by
        rintro rfl
        exact absurd hMem (by decide +kernel)
      rw [hPath]
      exact Tree.at?_inside_of_ne hNe _ root []

/-- The entries of the client's table, one after the other. -/
theorem writes_client_fields {fields : List (String × Tree)}
    (hEach : ∀ field ∈ fields, Writes layer ["client." ++ Text.lower field.1]
      (Tree.inside "client" (Tree.setName field.1 field.2))) :
    Writes layer (fields.map fun field => "client." ++ Text.lower field.1)
      (Tree.inside "client" (Tree.merge fields)) := by
  induction fields with
  | nil =>
    apply Writes.of_keeps
    · exact fun _ => List.not_mem_nil
    · intro leaf root
      apply Tree.at?_inside_id leaf.path_ne_nil
      cases leaf <;> decide +kernel
  | cons field fields ih =>
    have hRest := ih fun other hMem => hEach other (List.mem_cons_of_mem _ hMem)
    have hMerge : Tree.inside "client" (Tree.merge (field :: fields)) =
        Tree.inside "client" (Tree.merge fields) ∘
          Tree.inside "client" (Tree.setName field.1 field.2) := by
      funext root
      rw [Function.comp_apply, Tree.inside_inside]
      rfl
    rw [hMerge]
    exact (hEach field List.mem_cons_self).comp hRest

/-- An entry whose name leads elsewhere. -/
theorem writes_foreign {name : String}
    (hForeign : ∀ leaf : Leaf, leaf.path.head? ≠ some (Tree.rootName name)) (tree : Tree) :
    Writes layer [Text.lower name] (Tree.set name tree) := by
  apply Writes.of_keeps
  · intro leaf hMem
    exact hForeign leaf (Leaf.head?_path_of_name (List.mem_singleton.mp hMem))
  · intro leaf root
    have hLeaf := hForeign leaf
    cases hPath : leaf.path with
    | nil => exact absurd hPath leaf.path_ne_nil
    | cons first rest =>
      apply Tree.at?_set_of_ne
      rintro rfl
      rw [hPath] at hLeaf
      exact hLeaf rfl

end Entries

/-! ## Files -/

/-- An entry of the client's table in a file is that of a leaf, written as the layer has it, or it has
a name that no leaf has. -/
inductive FieldSets (layer : Overrides) : String × Toml → Prop where
  | leaf {leaf : Leaf} {value : leaf.Value} {field : String} {toml : Toml}
      (hName : leaf.name = "client." ++ Text.lower field) (hLayer : layer leaf = some value)
      (hWritten : leaf.kind.InFile value toml) : FieldSets layer (field, toml)
  | foreign {field : String} {toml : Toml}
      (hForeign : ∀ leaf : Leaf, leaf.name ≠ "client." ++ Text.lower field) :
      FieldSets layer (field, toml)

/-- An entry of a file is the client's table, or that of a leaf, written as the layer has it, or its
name leads elsewhere from the root on. -/
inductive EntrySets (layer : Overrides) : String × Toml → Prop where
  | client {name : String} {fields : List (String × Toml)} (hName : Text.lower name = "client")
      (hFields : ∀ field ∈ fields, FieldSets layer field) : EntrySets layer (name, .table fields)
  | leaf {leaf : Leaf} {value : leaf.Value} {name : String} {toml : Toml}
      (hName : Text.lower name = leaf.name) (hLayer : layer leaf = some value)
      (hWritten : leaf.kind.InFile value toml) : EntrySets layer (name, toml)
  | foreign {name : String} {toml : Toml}
      (hForeign : ∀ leaf : Leaf, leaf.path.head? ≠ some (Tree.rootName name)) :
      EntrySets layer (name, toml)

/-- The names of the values in an entry of a file. -/
def entryNames : String × Toml → List String
  | (name, .table fields) =>
    if Text.lower name = "client" then fields.map fun field => "client." ++ Text.lower field.1
    else [Text.lower name]
  | (name, _) => [Text.lower name]

theorem entryNames_of_ne {name : String} (hNe : Text.lower name ≠ "client") (toml : Toml) :
    entryNames (name, toml) = [Text.lower name] := by
  unfold entryNames
  split
  · rename_i hEntry
    cases hEntry
    exact if_neg hNe
  · rename_i hEntry
    cases hEntry
    rfl

/-- What the entries of a file set: each leaf of the layer stands in the file, and nothing else does that
leads to a leaf. -/
structure FileSets (entries : List (String × Toml)) (layer : Overrides) : Prop where
  only : ∀ entry ∈ entries, EntrySets layer entry
  all : ∀ leaf : Leaf, (layer leaf).isSome → leaf.name ∈ entries.flatMap entryNames

theorem FieldSets.writes {layer : Overrides} {field : String × Toml}
    (hSets : FieldSets layer field) (file : String) :
    Writes layer ["client." ++ Text.lower field.1]
      (Tree.inside "client" (Tree.setName field.1 (Tree.ofToml file field.2))) := by
  cases hSets with
  | leaf hName hLayer hWritten =>
    obtain ⟨hConvert, hFlat⟩ := convert_inFile hWritten file
    exact writes_field hName hLayer hConvert hFlat
  | foreign hForeign => exact writes_foreign_field hForeign _

theorem ofEntries_eq_map (file : String) (entries : List (String × Toml)) :
    Tree.ofEntries file entries =
      entries.map fun entry => (entry.1, Tree.ofToml file entry.2) := by
  induction entries with
  | nil => rfl
  | cons entry entries ih =>
    rw [Tree.ofEntries, ih]
    rfl

theorem EntrySets.writes {layer : Overrides} {entry : String × Toml}
    (hSets : EntrySets layer entry) (file : String) :
    Writes layer (entryNames entry) (Tree.set entry.1 (Tree.ofToml file entry.2)) := by
  cases hSets with
  | @client name fields hName hFields =>
    have hSet : Tree.set name (Tree.ofToml file (.table fields)) =
        Tree.inside "client" (Tree.merge (Tree.ofEntries file fields)) := by
      funext root
      rw [Tree.ofToml]
      apply Tree.set_table
      · rw [hName]
        decide +kernel
      · decide +kernel
    have hEach : ∀ field ∈ Tree.ofEntries file fields,
        Writes layer ["client." ++ Text.lower field.1]
          (Tree.inside "client" (Tree.setName field.1 field.2)) := by
      intro field hMem
      rw [ofEntries_eq_map] at hMem
      obtain ⟨own, hOwn, rfl⟩ := List.mem_map.mp hMem
      exact (hFields own hOwn).writes file
    have hWrites := writes_client_fields hEach
    rw [ofEntries_eq_map, List.map_map, ← ofEntries_eq_map] at hWrites
    rw [entryNames, if_pos hName, hSet]
    exact hWrites
  | @leaf leaf value name toml hName hLayer hWritten =>
    obtain ⟨hConvert, hFlat⟩ := convert_inFile hWritten file
    have hNe : Text.lower name ≠ "client" := by
      rw [hName]
      exact leaf.name_ne_client
    rw [entryNames_of_ne hNe, hName]
    exact writes_leaf hName hLayer hConvert hFlat
  | @foreign name toml hForeign =>
    have hNe : Text.lower name ≠ "client" := by
      intro hName
      apply hForeign .endpoint
      rw [Tree.rootName, hName]
      decide +kernel
    rw [entryNames_of_ne hNe]
    exact writes_foreign hForeign _

/-- A file laid over a tree writes what its entries set. -/
theorem FileSets.writes {layer : Overrides} {entries : List (String × Toml)}
    (hSets : FileSets entries layer) (file : String) :
    Writes layer (entries.flatMap entryNames) (Tree.overlay (Tree.ofEntries file entries)) := by
  have hFold := Writes.foldl fun entry hMem => (hSets.only entry hMem).writes file
  have hOverlay : Tree.overlay (Tree.ofEntries file entries) = fun root =>
      entries.foldl (fun root entry => Tree.set entry.1 (Tree.ofToml file entry.2) root) root := by
    funext root
    rw [Tree.overlay, ofEntries_eq_map, List.foldl_map]
  rw [hOverlay]
  exact hFold

/-! ## Environments -/

/-- A name that does not begin as the names of variables do, in whatever case. -/
def Unrelated (name : String) : Prop :=
  ¬ Environment.namePrefix.toList <+: (Text.lower name).toList

instance (name : String) : Decidable (Unrelated name) :=
  inferInstanceAs (Decidable (¬ _ <+: _))

/-- What the variables of an environment set: each leaf of the layer has a variable, and all others
are unrelated.  The case of names does not count. -/
structure EnvironmentSets (environment : List (String × String)) (layer : Overrides) : Prop where
  only : ∀ entry ∈ environment, Unrelated entry.1 ∨ ∃ (leaf : Leaf) (value : leaf.Value),
    Text.lower entry.1 = Text.lower leaf.variableName ∧ layer leaf = some value ∧
      leaf.kind.InVariable value entry.2
  all : ∀ leaf : Leaf, (layer leaf).isSome →
    ∃ entry ∈ environment, Text.lower entry.1 = Text.lower leaf.variableName

theorem settingName?_of_unrelated {name : String} (hUnrelated : Unrelated name) :
    Environment.settingName? name = none := by
  have hNot : ¬ Environment.namePrefix.toList.isPrefixOf (Text.lower name).toList := by
    rw [List.isPrefixOf_iff_prefix]
    exact hUnrelated
  rw [Environment.settingName?]
  exact if_neg hNot

theorem settingName?_of_lower {name : String} {leaf : Leaf}
    (hName : Text.lower name = Text.lower leaf.variableName) :
    Environment.settingName? name = some leaf.name := by
  have hLeaf := leaf.settingName?_variableName
  rw [Environment.settingName?] at hLeaf ⊢
  rw [hName]
  exact hLeaf

theorem Environment.layer_cons (entry : String × String) (environment : List (String × String)) :
    layer (entry :: environment) =
      ((settingName? entry.1).map fun name => (name, value name entry.2)).toList ++
        layer environment := by
  rw [layer, List.filterMap_cons]
  dsimp only
  cases settingName? entry.1 with
  | none => rfl
  | some name => rfl

/-- An environment laid over a tree writes what its variables set. -/
theorem EnvironmentSets.writes {layer : Overrides} {environment : List (String × String)}
    (hSets : EnvironmentSets environment layer) :
    Writes layer ((Environment.layer environment).flatMap fun entry => [entry.1])
      (Tree.overlay (Environment.layer environment)) := by
  apply Writes.foldl
  intro entry hMem
  obtain ⟨setting, hSetting, hEntry⟩ := List.mem_filterMap.mp hMem
  obtain ⟨name, hName, rfl⟩ := Option.map_eq_some_iff.mp hEntry
  rcases hSets.only setting hSetting with hUnrelated | ⟨leaf, value, hLower, hLayer, hWritten⟩
  · rw [settingName?_of_unrelated hUnrelated] at hName
    cases hName
  · rw [settingName?_of_lower hLower] at hName
    cases hName
    obtain ⟨hConvert, hFlat⟩ := convert_inVariable hWritten leaf.name_eq_roles_iff
    exact writes_leaf leaf.lower_name hLayer hConvert hFlat

theorem EnvironmentSets.mem_names {layer : Overrides} {environment : List (String × String)}
    (hSets : EnvironmentSets environment layer) {leaf : Leaf} (hSome : (layer leaf).isSome) :
    leaf.name ∈ (Environment.layer environment).flatMap fun entry => [entry.1] := by
  obtain ⟨⟨varName, text⟩, hSetting, hLower⟩ := hSets.all leaf hSome
  have hEntry : (leaf.name, Environment.value leaf.name text) ∈ Environment.layer environment := by
    apply List.mem_filterMap.mpr
    refine ⟨_, hSetting, ?_⟩
    dsimp only
    rw [settingName?_of_lower hLower]
    rfl
  exact List.mem_flatMap.mpr ⟨_, hEntry, List.mem_singleton_self _⟩

end ClusterBootstrap.Settings
