import ClusterBootstrap.Proofs.Settings.Loading
import ClusterBootstrap.Proofs.Text.Commas

/-!
# Roles from the environment

One variable holds the roles, with commas between them.  Its text is first tried as a boolean, an integer and
a number, none of which has a comma.  So two names or more are read as they stand, whatever they look
like, and a single name is refused exactly if a boolean or a number is written so.
-/

namespace ClusterBootstrap.Settings

/-! ## What a text is read as -/

theorem integer?_eq_none_of_comma {text : String} (hComma : ',' ∈ text.toList) :
    Environment.integer? text = none := by
  have hNone {digits : List Char} (hMem : ',' ∈ digits) : Decimal.natural? digits = none :=
    Decimal.natural?_eq_none_of_comma hMem
  unfold Environment.integer?
  split
  · rename_i digits hText
    rw [hText] at hComma
    rw [hNone (List.mem_of_ne_of_mem (by decide) hComma)]
    rfl
  · rename_i digits hText
    rw [hText] at hComma
    rw [hNone (List.mem_of_ne_of_mem (by decide) hComma)]
    rfl
  · rw [hNone hComma]
    rfl

/-- A text with a comma is neither a boolean nor a number. -/
theorem plain_of_comma {text : String} (hComma : ',' ∈ text.toList) : Plain text := by
  have hWord {word : String} (hLower : text.toLower = word) : ',' ∈ word.toList := by
    have hMap : text.toLower.toList = text.toList.map Char.toLower := String.toList_map
    rw [← hLower, hMap]
    exact List.mem_map.mpr ⟨',', hComma, rfl⟩
  exact
    { notTrue := fun hTrue => absurd (hWord hTrue) (by decide)
      notFalse := fun hFalse => absurd (hWord hFalse) (by decide)
      notInteger := integer?_eq_none_of_comma hComma
      notNumber := by
        rw [Decimal.parse?_eq_none_of_comma hComma]
        rfl }

/-- Only a single name can make the text of some names that of a boolean or a number. -/
theorem plain_commas_iff {names : List String} (hSome : names ≠ []) :
    Plain (",".intercalate names) ↔ ∀ name, names = [name] → Plain name := by
  match names, hSome with
  | [name], _ =>
    rw [String.intercalate_singleton]
    constructor
    · rintro hPlain _ ⟨⟩
      exact hPlain
    · intro hAll
      exact hAll name rfl
  | first :: second :: rest, _ =>
    have hPlain := plain_of_comma (Text.comma_mem_intercalate first second rest)
    refine iff_of_true hPlain fun name hSingle => ?_
    cases hSingle

/-- The text of a boolean or a number is read as one, under any name. -/
theorem value_of_not_plain {text : String} (hNot : ¬ Plain text) (name : String) :
    ∃ s, Environment.value name text = .scalar (some Environment.layerName) s := by
  unfold Environment.value
  dsimp only
  split
  · exact ⟨_, rfl⟩
  · rename_i hTrue
    split
    · exact ⟨_, rfl⟩
    · rename_i hFalse
      split
      · exact ⟨_, rfl⟩
      · exact ⟨_, rfl⟩
      · rename_i hInteger hNumber
        exact absurd ⟨hTrue, hFalse, hInteger, Option.isNone_iff_eq_none.mpr hNumber⟩ hNot

theorem flat_value (name text : String) : (Environment.value name text).Flat := by
  by_cases hPlain : Plain text
  · rw [Environment.value_of_plain hPlain]
    split
    · exact Tree.flat_list _ _
    · exact Tree.flat_scalar _ _
  · obtain ⟨s, hValue⟩ := value_of_not_plain hPlain name
    rw [hValue]
    exact Tree.flat_scalar _ _

/-! ## The variable of the roles -/

/-- What a variable sets stands under the name of the roles. -/
def LeadsToRoles (variableName : String) : Prop :=
  ∃ name, Environment.settingName? variableName = some name ∧ Tree.rootName name = "roles"

instance (variableName : String) : Decidable (LeadsToRoles variableName) :=
  decidable_of_iff (((Environment.settingName? variableName).any fun name =>
      Tree.rootName name = "roles") = true) <| by
    rw [Option.any_eq_true]
    exact exists_congr fun name => and_congr_right fun _ => decide_eq_true_iff

/-- The roles have a variable with this text, and no other variable leads to them. -/
structure GivesRoles (environment : List (String × String)) (text : String) : Prop where
  given : (Leaf.roles.variableName, text) ∈ environment
  only : ∀ entry ∈ environment, LeadsToRoles entry.1 → entry = (Leaf.roles.variableName, text)

/-- An environment without the variable of the roles. -/
def withoutRoles (environment : List (String × String)) : List (String × String) :=
  environment.filter fun entry => entry.1 ≠ Leaf.roles.variableName

theorem settingName?_roles : Environment.settingName? Leaf.roles.variableName = some "roles" :=
  Leaf.roles.settingName?_variableName

theorem rootName_roles : Tree.rootName "roles" = "roles" := by decide +kernel

theorem leadsToRoles_roles : LeadsToRoles Leaf.roles.variableName :=
  ⟨"roles", settingName?_roles, rootName_roles⟩

/-- What one variable does to a tree. -/
def setVariable (entry : String × String) (root : Tree) : Tree :=
  match Environment.settingName? entry.1 with
  | some name => Tree.set name (Environment.value name entry.2) root
  | none => root

theorem overlay_layer_cons (entry : String × String) (environment : List (String × String))
    (root : Tree) :
    Tree.overlay (Environment.layer (entry :: environment)) root =
      Tree.overlay (Environment.layer environment) (setVariable entry root) := by
  rw [Environment.layer_cons, setVariable]
  cases Environment.settingName? entry.1 with
  | none => rfl
  | some name => rfl

theorem lookup_setVariable_roles (text : String) (root : Tree) :
    (setVariable (Leaf.roles.variableName, text) root).asTable.2.lookup "roles" =
      some (Environment.value "roles" text) := by
  have hPath : Tree.path? (Text.lower "roles").toList = some (["roles"].map .child) := by
    decide +kernel
  have hLower : ∀ name ∈ ["roles"], Text.lower name = name := by decide +kernel
  rw [setVariable, settingName?_roles]
  dsimp only
  rw [Tree.set_flat hPath (flat_value _ _) (List.cons_ne_nil _ _) hLower]
  exact Tree.lookup_put_self ..

theorem lookup_setVariable_of_not_leads {entry : String × String} (hNot : ¬ LeadsToRoles entry.1)
    (root : Tree) :
    (setVariable entry root).asTable.2.lookup "roles" = root.asTable.2.lookup "roles" := by
  unfold setVariable
  split
  · rename_i name hName
    have hOther : "roles" ≠ Tree.rootName name := fun hRoot => hNot ⟨name, hName, hRoot.symm⟩
    exact Tree.lookup_set_of_ne hOther _ root
  · rfl

/-- The variable of the roles is found in the tree, wherever it stands in the environment. -/
theorem GivesRoles.lookup_eq {environment : List (String × String)} {text : String}
    (hGives : GivesRoles environment text) (root : Tree) :
    (Tree.overlay (Environment.layer environment) root).asTable.2.lookup "roles" =
      some (Environment.value "roles" text) := by
  obtain ⟨hGiven, hOnly⟩ := hGives
  -- what was set once stays, because no other variable leads there
  have hStays : (Leaf.roles.variableName, text) ∈ environment ∨
      root.asTable.2.lookup "roles" = some (Environment.value "roles" text) := .inl hGiven
  clear hGiven
  induction environment generalizing root with
  | nil => exact hStays.resolve_left List.not_mem_nil
  | cons entry environment ih =>
    rw [overlay_layer_cons]
    apply ih _ fun other hMem => hOnly other (List.mem_cons_of_mem _ hMem)
    by_cases hLeads : LeadsToRoles entry.1
    · rw [hOnly entry List.mem_cons_self hLeads]
      exact .inr (lookup_setVariable_roles text root)
    · rw [lookup_setVariable_of_not_leads hLeads]
      refine hStays.imp_left fun hMem => (List.mem_cons.mp hMem).resolve_left ?_
      rintro rfl
      exact hLeads leadsToRoles_roles

/-- The variable of the roles shows nowhere else. -/
theorem sameBut_withoutRoles (environment : List (String × String)) {tree other : Tree}
    (hSame : Tree.SameBut "roles" tree other) :
    Tree.SameBut "roles" (Tree.overlay (Environment.layer environment) tree)
      (Tree.overlay (Environment.layer (withoutRoles environment)) other) := by
  induction environment generalizing tree other with
  | nil => exact hSame
  | cons entry environment ih =>
    rw [overlay_layer_cons, withoutRoles]
    by_cases hRoles : entry.1 = Leaf.roles.variableName
    · rw [List.filter_cons_of_neg (by simpa using hRoles)]
      apply ih
      rw [setVariable, hRoles, settingName?_roles]
      have hSet := Tree.sameBut_set "roles" (Environment.value "roles" entry.2) tree
      rw [rootName_roles] at hSet
      exact hSet.trans hSame
    · rw [List.filter_cons_of_pos (by simpa using hRoles), overlay_layer_cons]
      apply ih
      unfold setVariable
      split
      · exact hSame.set _ _
      · exact hSame

/-! ## Reading the roles -/

/-- Settings are read from a table field by field. -/
theorem bootstrap_table (origin : Option String) (entries : List (String × Tree)) :
    Conversion.bootstrap (.table origin entries) = (do
      let client ← Conversion.field { entries, items := [] } "client" 0 Conversion.client
        BootstrapSettings.default.client
      let roles ← Conversion.field { entries, items := [] } "roles" 1
        (Conversion.list Conversion.string) BootstrapSettings.default.roles
      let fallback ← Conversion.field { entries, items := [] } "fallback" 2 Conversion.fallback
        BootstrapSettings.default.fallback
      return { client, roles, fallback }) :=
  rfl

theorem field_congr {α : Type} {entries others : List (String × Tree)} {name : String}
    (hSame : entries.lookup name = others.lookup name) (index : Nat)
    (convert : Conversion α) (default : α) :
    Conversion.field { entries, items := [] } name index convert default =
      Conversion.field { entries := others, items := [] } name index convert default := by
  rw [Conversion.field, Conversion.field, hSame]

/-- Settings that can be read are read with other roles where the tree has these, and nothing else is
read differently. -/
theorem bootstrap_of_sameBut {origin origin' : Option String} {entries others : List (String × Tree)}
    {settings : BootstrapSettings} {found : Tree}
    (hSame : Tree.SameBut "roles" (.table origin entries) (.table origin' others))
    (hRoles : entries.lookup "roles" = some found)
    (hOther : Conversion.bootstrap (.table origin' others) = .ok settings) :
    Conversion.bootstrap (.table origin entries) =
      ((Conversion.list Conversion.string found).mapError (LoadFault.within "roles")).map
        fun roles => { settings with roles } := by
  have hClient : entries.lookup "client" = others.lookup "client" := hSame "client" (by decide)
  have hFallback : entries.lookup "fallback" = others.lookup "fallback" :=
    hSame "fallback" (by decide)
  have hRead : Conversion.field { entries, items := [] } "roles" 1
      (Conversion.list Conversion.string) BootstrapSettings.default.roles =
        (Conversion.list Conversion.string found).mapError (LoadFault.within "roles") := by
    rw [Conversion.field, hRoles]
  rw [bootstrap_table] at hOther ⊢
  rw [field_congr hClient, hRead, field_congr hFallback]
  -- the other tree tells that both other fields can be read
  obtain ⟨client, hClientRead, hOther⟩ := bind_eq_ok_iff.mp hOther
  obtain ⟨roles, -, hOther⟩ := bind_eq_ok_iff.mp hOther
  obtain ⟨fallback, hFallbackRead, hOther⟩ := bind_eq_ok_iff.mp hOther
  obtain rfl := Except.ok.inj hOther
  rw [hClientRead, hFallbackRead]
  cases (Conversion.list Conversion.string found).mapError (LoadFault.within "roles") with
  | error fault => rfl
  | ok given => rfl

/-- Settings are loaded from the environment over what the file has, if it can be read. -/
theorem exists_load_eq (args : Arguments) (files : Files) :
    ∃ fromFile : Except LoadFault (List (String × Tree)), ∀ environment,
      load args files environment = fromFile.bind fun entries =>
        (Conversion.bootstrap (Tree.overlay (Environment.layer environment)
          (Tree.overlay entries (Tree.overlay defaultLayer .fresh)))).map (applyArguments args) := by
  refine ⟨match args.config with
    | some name => fileLayer files name
    | none => .ok [], fun environment => ?_⟩
  unfold load
  cases args.config with
  | none => rfl
  | some name =>
    cases fileLayer files name with
    | error fault => rfl
    | ok entries => rfl

/-- What the variable of the roles adds to settings that can be loaded without it. -/
theorem load_of_givesRoles {args : Arguments} {files : Files} {environment : List (String × String)}
    {text : String} {settings : BootstrapSettings} (hArguments : args.roles = [])
    (hGives : GivesRoles environment text)
    (hRest : load args files (withoutRoles environment) = .ok settings) :
    load args files environment =
      ((Conversion.list Conversion.string (Environment.value "roles" text)).mapError
        (LoadFault.within "roles")).map fun roles => { settings with roles } := by
  obtain ⟨fromFile, hLoad⟩ := exists_load_eq args files
  rw [hLoad] at hRest ⊢
  obtain ⟨entries, rfl, hRest⟩ := bind_eq_ok_iff.mp hRest
  obtain ⟨loaded, hLoaded, rfl⟩ := map_eq_ok_iff.mp hRest
  obtain ⟨o, e, hDefaults⟩ := Tree.exists_overlay_eq_table defaultLayer none []
  obtain ⟨o, e, hRoot⟩ := Tree.exists_overlay_eq_table entries o e
  have hSame := sameBut_withoutRoles environment
    (fun key _ => rfl : Tree.SameBut "roles" (.table o e) (.table o e))
  have hRoles := hGives.lookup_eq (.table o e)
  show ((Conversion.bootstrap _).map (applyArguments args)) = _
  rw [Tree.fresh, hDefaults, hRoot] at hLoaded ⊢
  obtain ⟨_, _, hTree⟩ := Tree.exists_overlay_eq_table (Environment.layer environment) o e
  obtain ⟨_, _, hOther⟩ :=
    Tree.exists_overlay_eq_table (Environment.layer (withoutRoles environment)) o e
  rw [hTree] at hSame hRoles ⊢
  rw [hOther] at hSame hLoaded
  rw [bootstrap_of_sameBut hSame hRoles hLoaded]
  cases Conversion.list Conversion.string (Environment.value "roles" text) with
  | error fault => rfl
  | ok roles =>
    have hKept : applyArguments args { loaded with roles } =
        { applyArguments args loaded with roles } := by
      simp [applyArguments, hArguments]
    exact congrArg Except.ok hKept

/-- Where all else can be loaded, the roles are the names that their variable holds, in order and each as it
is written, unless it holds a single name that is written like a boolean or a number.  That one is not taken
for a list, and nothing is loaded. -/
theorem load_roles_iff {args : Arguments} {files : Files} {environment : List (String × String)}
    {names : List String} {settings : BootstrapSettings} (hSome : names ≠ [])
    (hCommas : ∀ name ∈ names, ',' ∉ name.toList) (hArguments : args.roles = [])
    (hGives : GivesRoles environment (",".intercalate names))
    (hRest : load args files (withoutRoles environment) = .ok settings) :
    (load args files environment = .ok { settings with roles := names } ↔
      ∀ name, names = [name] → Plain name) ∧
    ((∃ name, names = [name] ∧ ¬ Plain name) →
      ∃ found, load args files environment = .error (.wrongKind found "a sequence")) := by
  have hLoad := load_of_givesRoles hArguments hGives hRest
  by_cases hPlain : Plain (",".intercalate names)
  · have hAll := (plain_commas_iff hSome).mp hPlain
    have hValue := Environment.value_of_plain hPlain "roles"
    rw [if_pos rfl, Text.stringParts_commas hSome hCommas] at hValue
    rw [hValue, Conversion.list_strings] at hLoad
    refine ⟨iff_of_true hLoad hAll, ?_⟩
    rintro ⟨name, hSingle, hNot⟩
    exact absurd (hAll name hSingle) hNot
  · -- a value that is no list is refused, whatever it is
    obtain ⟨s, hValue⟩ := value_of_not_plain hPlain "roles"
    rw [hValue] at hLoad
    have hRefused : load args files environment = .error (.wrongKind _ "a sequence") := hLoad
    refine ⟨iff_of_false (fun hOk => ?_) fun hAll => ?_, fun _ => ⟨_, hRefused⟩⟩
    · cases hRefused.symm.trans hOk
    · exact hPlain ((plain_commas_iff hSome).mpr hAll)

/-- Names that look like a number and a boolean are taken as they are where there are more of them. -/
theorem load_roles_like_scalars :
    let args : Arguments := { endpoint := some "10.0.0.9:1" }
    let names := ["5", "true", "key-value", "5"]
    let environment := [("HOME", "/root"), ("KVCLUSTER_ROLES", "5,true,key-value,5"),
      ("KVCLUSTER_CLIENT__REQUEST_TIMEOUT_SECONDS", "15")]
    let settings : BootstrapSettings :=
      { client := { endpoint := "10.0.0.9:1", requestTimeout := 15 } }
    names ≠ [] ∧ (∀ name ∈ names, ',' ∉ name.toList) ∧ args.roles = [] ∧
      GivesRoles environment (",".intercalate names) ∧
      load args [] (withoutRoles environment) = .ok settings ∧
      load args [] environment = .ok { settings with roles := names } := by
  intro args names environment settings
  have hSome : names ≠ [] := List.cons_ne_nil _ _
  have hCommas : ∀ name ∈ names, ',' ∉ name.toList := by decide
  have hGives : GivesRoles environment (",".intercalate names) :=
    ⟨by decide +kernel, by decide +kernel⟩
  have hRest : load args [] (withoutRoles environment) = .ok settings := by decide +kernel
  obtain ⟨hLoad, -⟩ := load_roles_iff hSome hCommas rfl hGives hRest
  refine ⟨hSome, hCommas, rfl, hGives, hRest, hLoad.mpr fun name hSingle => ?_⟩
  exact absurd (List.cons.inj hSingle).2 (List.cons_ne_nil _ _)

/-- A single name that is written like a number is refused, though it is taken from the command line. -/
theorem load_single_number_refused :
    GivesRoles [("KVCLUSTER_ROLES", "1")] (",".intercalate ["1"]) ∧
      load {} [] (withoutRoles [("KVCLUSTER_ROLES", "1")]) = .ok .default ∧
      load {} [] [("KVCLUSTER_ROLES", "1")] = .error (.wrongKind "integer `1`" "a sequence") ∧
      load { roles := ["1"] } [] [] = .ok { BootstrapSettings.default with roles := ["1"] } :=
  ⟨⟨by decide +kernel, by decide +kernel⟩, by decide +kernel, by decide +kernel, by decide +kernel⟩

end ClusterBootstrap.Settings
