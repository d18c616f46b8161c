import ClusterBootstrap.Settings.Tree

/-!
# Values at paths

What a layer does to the tree of values is told path by path.  Setting a value at one path shows only
at that path: a path that neither begins it nor goes on from it leads where it led before.
-/

namespace ClusterBootstrap.Settings.Tree

/-! ## Entries -/

theorem lookup_put_self (name : String) (value : Tree) (entries : List (String × Tree)) :
    (put name value entries).lookup name = some value := by
  induction entries with
  | nil => simp [put]
  | cons entry entries ih =>
    obtain ⟨other, v⟩ := entry
    by_cases hName : other = name
    · simp [put, hName]
    · have hBeq : (name == other) = false := by simpa using Ne.symm hName
      simp [put, hName, List.lookup_cons, hBeq, ih]

theorem lookup_put_of_ne {name other : String} (hNe : other ≠ name) (value : Tree)
    (entries : List (String × Tree)) :
    (put name value entries).lookup other = entries.lookup other := by
  have hOther : (other == name) = false := by simpa using hNe
  induction entries with
  | nil => simp [put, List.lookup_cons, hOther]
  | cons entry entries ih =>
    obtain ⟨first, v⟩ := entry
    by_cases hName : first = name
    · simp [put, hName, List.lookup_cons, hOther]
    · simp [put, hName, List.lookup_cons, ih]

theorem put_put (name : String) (value other : Tree) (entries : List (String × Tree)) :
    put name value (put name other entries) = put name value entries := by
  induction entries with
  | nil => simp [put]
  | cons entry entries ih =>
    obtain ⟨first, v⟩ := entry
    by_cases hName : first = name
    · simp [put, hName]
    · simp [put, hName, ih]

/-! ## Paths -/

/-- The value that a path of names leads to. -/
def at? : List String → Tree → Option Tree
  | [], tree => some tree
  | name :: path, tree => (tree.asTable.2.lookup name).bind (at? path)

/-- Changes the value of one name, which is a fresh table where there was none. -/
def inside (name : String) (change : Tree → Tree) (root : Tree) : Tree :=
  table root.asTable.1
    (put name (change ((root.asTable.2.lookup name).getD fresh)) root.asTable.2)

/-- Puts a value at the end of a path. -/
def putAt (value : Tree) : List String → Tree → Tree
  | [], _ => value
  | name :: path, root => inside name (putAt value path) root

theorem at?_inside_self (name : String) (change : Tree → Tree) (root : Tree)
    (path : List String) :
    (inside name change root).at? (name :: path) =
      (change ((root.asTable.2.lookup name).getD fresh)).at? path := by
  rw [at?, inside, asTable, lookup_put_self]
  rfl

theorem at?_inside_of_ne {name other : String} (hNe : other ≠ name) (change : Tree → Tree)
    (root : Tree) (path : List String) :
    (inside name change root).at? (other :: path) = root.at? (other :: path) := by
  rw [at?, at?, inside, asTable, lookup_put_of_ne hNe]

/-- A name that is not there and a fresh table have the same values inside: none. -/
theorem at?_getD_fresh (root : Tree) (name next : String) (path : List String) :
    ((root.asTable.2.lookup name).getD fresh).at? (next :: path) =
      root.at? (name :: next :: path) := by
  show _ = (root.asTable.2.lookup name).bind (at? (next :: path))
  cases root.asTable.2.lookup name with
  | none => rfl
  | some tree => rfl

/-- A name whose value stays as it is shows nothing else: there is at most a fresh table more. -/
theorem at?_inside_id {name : String} {path : List String} (hNe : path ≠ []) (hName : path ≠ [name])
    (root : Tree) : (inside name id root).at? path = root.at? path := by
  cases path with
  | nil => exact absurd rfl hNe
  | cons first rest =>
    by_cases hFirst : first = name
    · subst hFirst
      rw [at?_inside_self]
      cases rest with
      | nil => exact absurd rfl hName
      | cons next rest => exact at?_getD_fresh root first next rest
    · exact at?_inside_of_ne hFirst id root rest

/-- Two changes of one name are one change. -/
theorem inside_inside (name : String) (change other : Tree → Tree) (root : Tree) :
    inside name change (inside name other root) = inside name (change ∘ other) root := by
  simp only [inside, asTable, lookup_put_self, put_put]
  rfl

theorem at?_putAt_self (value : Tree) (path : List String) (root : Tree) :
    (putAt value path root).at? path = some value := by
  induction path generalizing root with
  | nil => rfl
  | cons name path ih =>
    rw [putAt, at?_inside_self]
    exact ih _

/-- A value that is put at one path is not seen along a path that leads elsewhere. -/
theorem at?_putAt_of_not_prefix (value : Tree) {path other : List String}
    (hPath : ¬ path <+: other) (hOther : ¬ other <+: path) (root : Tree) :
    (putAt value path root).at? other = root.at? other := by
  induction path generalizing other root with
  | nil => exact absurd List.nil_prefix hPath
  | cons name path ih =>
    cases other with
    | nil => exact absurd List.nil_prefix hOther
    | cons first rest =>
      rw [putAt]
      by_cases hName : first = name
      · -- the two paths part only later
        subst hName
        rw [List.cons_prefix_cons] at hPath hOther
        have hRest : ¬ path <+: rest := fun h => hPath ⟨rfl, h⟩
        have hBack : ¬ rest <+: path := fun h => hOther ⟨rfl, h⟩
        rw [at?_inside_self, ih hRest hBack]
        cases rest with
        | nil => exact absurd List.nil_prefix hBack
        | cons next rest => exact at?_getD_fresh root first next rest
      · exact at?_inside_of_ne hName _ root rest

/-! ## Setting values -/

/-- A value that is no table replaces what was there. -/
def Flat (value : Tree) : Prop :=
  ∀ origin entries, value ≠ table origin entries

theorem flat_scalar (origin : Option String) (value : Scalar) : Flat (scalar origin value) := by
  intro _ _ hTable
  cases hTable

theorem flat_list (origin : Option String) (items : List Tree) : Flat (list origin items) := by
  intro _ _ hTable
  cases hTable

theorem setName_flat {value : Tree} (hFlat : Flat value) (name : String) (root : Tree) :
    setName name value root = inside (Text.lower name) (fun _ => value) root := by
  cases value with
  | scalar origin s => rw [setName]; rfl
  | list origin items => rw [setName]; rfl
  | table origin entries => exact absurd rfl (hFlat origin entries)

theorem setName_table (name : String) (origin : Option String) (entries : List (String × Tree))
    (root : Tree) :
    setName name (table origin entries) root = inside (Text.lower name) (merge entries) root := by
  rw [setName]
  rfl

theorem at?_setName_of_ne {name other : String} (hNe : other ≠ Text.lower name) (value root : Tree)
    (path : List String) :
    (setName name value root).at? (other :: path) = root.at? (other :: path) := by
  cases value with
  | scalar origin s =>
    rw [setName_flat (flat_scalar origin s)]
    exact at?_inside_of_ne hNe _ root path
  | list origin items =>
    rw [setName_flat (flat_list origin items)]
    exact at?_inside_of_ne hNe _ root path
  | table origin entries =>
    rw [setName_table]
    exact at?_inside_of_ne hNe _ root path

/-- Where a path has only names in lower case, a value is put at its end. -/
theorem setSteps_flat {value : Tree} (hFlat : Flat value) {path : List String}
    (hSome : path ≠ []) (hLower : ∀ name ∈ path, Text.lower name = name) (root : Tree) :
    setSteps value (path.map .child) root = putAt value path root := by
  induction path generalizing root with
  | nil => exact absurd rfl hSome
  | cons name path ih =>
    cases path with
    | nil =>
      rw [List.map_singleton, setSteps, setName_flat hFlat, hLower name List.mem_cons_self]
      rfl
    | cons next path =>
      have hRest := fun tree => ih (List.cons_ne_nil next path)
        (fun n hMem => hLower n (List.mem_cons_of_mem _ hMem)) tree
      show table root.asTable.1 (put name (setSteps value ((next :: path).map .child)
          ((root.asTable.2.lookup name).getD nothing)) root.asTable.2) =
        inside name (putAt value (next :: path)) root
      rw [hRest, inside]
      -- what is not there holds nothing, which gives way like a fresh table
      cases root.asTable.2.lookup name with
      | none => rfl
      | some tree => rfl

/-- A named value is put where its name leads. -/
theorem set_flat {name : String} {value : Tree} {path : List String}
    (hPath : path? (Text.lower name).toList = some (path.map .child)) (hFlat : Flat value)
    (hSome : path ≠ []) (hLower : ∀ name ∈ path, Text.lower name = name) (root : Tree) :
    set name value root = putAt value path root := by
  rw [set, hPath]
  exact setSteps_flat hFlat hSome hLower root

/-- A table is merged into what its name leads to. -/
theorem set_table {name key : String} (hPath : path? (Text.lower name).toList = some [.child key])
    (hLower : Text.lower key = key) (origin : Option String) (entries : List (String × Tree))
    (root : Tree) :
    set name (table origin entries) root = inside key (merge entries) root := by
  rw [set, hPath]
  dsimp only
  rw [setSteps, setName_table, hLower]

/-! ## Setting values elsewhere -/

/-- The name at the root under which a named value comes to stand. -/
def rootName (name : String) : String :=
  match path? (Text.lower name).toList with
  | some [.child key] => Text.lower key
  | some (.child key :: _) => key
  | _ => Text.lower name

/-- A path begins with a name. -/
theorem path?_eq_some {text : List Char} {steps : List Step} (hPath : path? text = some steps) :
    ∃ key rest, steps = .child key :: rest := by
  rw [path?] at hPath
  split at hPath
  · cases hPath
  · obtain ⟨rest, _, rfl⟩ := Option.map_eq_some_iff.mp hPath
    exact ⟨_, rest, rfl⟩

/-- A named value shows only under its name at the root. -/
theorem at?_set_of_ne {name other : String} (hNe : other ≠ rootName name) (value root : Tree)
    (path : List String) : (set name value root).at? (other :: path) = root.at? (other :: path) := by
  rw [set]
  rw [rootName] at hNe
  cases hPath : path? (Text.lower name).toList with
  | none =>
    rw [hPath] at hNe
    exact at?_setName_of_ne hNe value root path
  | some steps =>
    obtain ⟨key, rest, rfl⟩ := path?_eq_some hPath
    rw [hPath] at hNe
    cases rest with
    | nil => exact at?_setName_of_ne hNe value root path
    | cons step rest =>
      have hKey : other ≠ key := hNe
      show ((put key _ root.asTable.2).lookup other).bind (at? path) = _
      rw [lookup_put_of_ne hKey]
      rfl

/-! ## One name at the root -/

/-- A named value changes the value of one name at the root, and how depends on that value alone. -/
theorem exists_set_eq (name : String) (value : Tree) :
    ∃ change : Option Tree → Tree, ∀ root, set name value root =
      table root.asTable.1
        (put (rootName name) (change (root.asTable.2.lookup (rootName name))) root.asTable.2) := by
  have hNamed (key : String) : ∃ change : Option Tree → Tree, ∀ root, setName key value root =
      table root.asTable.1 (put (Text.lower key)
        (change (root.asTable.2.lookup (Text.lower key))) root.asTable.2) := by
    cases value with
    | scalar origin s => exact ⟨fun _ => scalar origin s, fun root => setName_flat (flat_scalar _ _) ..⟩
    | list origin items => exact ⟨fun _ => list origin items, fun root => setName_flat (flat_list _ _) ..⟩
    | table origin entries =>
      exact ⟨fun old => merge entries (old.getD fresh), fun root => setName_table ..⟩
  unfold set rootName
  cases hPath : path? (Text.lower name).toList with
  | none => exact hNamed name
  | some steps =>
    obtain ⟨key, rest, rfl⟩ := path?_eq_some hPath
    cases rest with
    | nil => exact hNamed key
    | cons step rest =>
      exact ⟨fun old => setSteps value (step :: rest) (old.getD nothing), fun root => rfl⟩

/-- Two trees have the same values under every name at the root but one. -/
def SameBut (name : String) (tree other : Tree) : Prop :=
  ∀ key, key ≠ name → tree.asTable.2.lookup key = other.asTable.2.lookup key

theorem SameBut.trans {name : String} {tree other third : Tree} (h : SameBut name tree other)
    (hOther : SameBut name other third) : SameBut name tree third :=
  fun key hKey => (h key hKey).trans (hOther key hKey)

theorem lookup_set_of_ne {name key : String} (hNe : key ≠ rootName name) (value root : Tree) :
    (set name value root).asTable.2.lookup key = root.asTable.2.lookup key := by
  obtain ⟨change, hChange⟩ := exists_set_eq name value
  rw [hChange, asTable, lookup_put_of_ne hNe]

/-- A value that is set does not count where its name does not. -/
theorem sameBut_set (name : String) (value root : Tree) :
    SameBut (rootName name) (set name value root) root :=
  fun _ hKey => lookup_set_of_ne hKey value root

/-- Where a name does not count, it does not count for what is set later either. -/
theorem SameBut.set {name : String} {tree other : Tree} (h : SameBut name tree other)
    (entry : String) (value : Tree) :
    SameBut name (Tree.set entry value tree) (Tree.set entry value other) := by
  obtain ⟨change, hChange⟩ := exists_set_eq entry value
  intro key hKey
  by_cases hRoot : key = rootName entry
  · subst hRoot
    rw [hChange, hChange, asTable, asTable, lookup_put_self, lookup_put_self, h _ hKey]
  · rw [lookup_set_of_ne hRoot, lookup_set_of_ne hRoot, h key hKey]

/-- Values are set in a table. -/
theorem exists_overlay_eq_table (layer : List (String × Tree)) (origin : Option String)
    (entries : List (String × Tree)) :
    ∃ origin' entries', overlay layer (table origin entries) = table origin' entries' := by
  induction layer generalizing origin entries with
  | nil => exact ⟨origin, entries, rfl⟩
  | cons entry layer ih =>
    obtain ⟨change, hChange⟩ := exists_set_eq entry.1 entry.2
    show ∃ origin' entries', overlay layer (set entry.1 entry.2 (table origin entries)) =
      table origin' entries'
    rw [hChange]
    exact ih _ _

end ClusterBootstrap.Settings.Tree
