import ClusterBootstrap.Proofs.Except
import ClusterBootstrap.Proofs.Settings.Tree
import ClusterBootstrap.Settings.Load

/-!
# Leaves of the settings

Settings consist of seven single values.  Each has a place in the tree of values, a name, and a variable
of the environment; what can be written there for it depends only on its kind.  Whatever is written
in a file or in a variable is read back by the conversion of that kind.
-/

namespace ClusterBootstrap.Settings

/-! ## Kinds of values -/

/-- The kinds of values that settings have. -/
inductive Kind where
  | text
  | seconds
  | names
  | policy
  deriving DecidableEq

namespace Kind

/-- The values of a kind. -/
abbrev Value : Kind → Type
  | text => String
  | seconds => UInt64
  | names => List String
  | policy => FallbackPolicy

/-- How the values of a kind are read out of a tree. -/
def convert : (kind : Kind) → Conversion kind.Value
  | text => Conversion.string
  | seconds => Conversion.uint64
  | names => Conversion.list Conversion.string
  | policy => Conversion.fallback

end Kind

/-! ## Written values -/

/-- A text that is not how a boolean, an integer or a number is written. -/
structure Plain (text : String) : Prop where
  notTrue : text.toLower ≠ "true"
  notFalse : text.toLower ≠ "false"
  notInteger : Environment.integer? text = none
  notNumber : (Decimal.parse? text).isNone

instance (text : String) : Decidable (Plain text) :=
  decidable_of_iff (text.toLower ≠ "true" ∧ text.toLower ≠ "false" ∧
      Environment.integer? text = none ∧ (Decimal.parse? text).isNone)
    ⟨fun h => ⟨h.1, h.2.1, h.2.2.1, h.2.2.2⟩,
      fun h => ⟨h.notTrue, h.notFalse, h.notInteger, h.notNumber⟩⟩

namespace Kind

/-- Whether a value is written so in a file.  The case of a policy's name does not count. -/
def InFile : (kind : Kind) → kind.Value → Toml → Prop
  | text, value, toml => toml = .string value
  | seconds, value, toml => toml = .integer value.toNat
  | names, value, toml => toml = .array (value.map .string)
  | policy, value, toml =>
    ∃ name, toml = .string name ∧ FallbackPolicy.ofName? name.toLower = some value

/-- Whether a value is written so in an environment variable: seconds are digits, which a plus sign may
precede, and names stand between commas. -/
def InVariable : (kind : Kind) → kind.Value → String → Prop
  | text, value, written => written = value ∧ Plain written
  | seconds, value, written =>
    Decimal.natural? (Endpoint.unsignedDigits written.toList) = some value.toNat ∧
      value.toNat < Decimal.signedCount
  | names, value, written => Text.stringParts ',' written = value ∧ Plain written
  | policy, value, written =>
    FallbackPolicy.ofName? written.toLower = some value ∧ Plain written

end Kind

namespace Conversion

/-! ## Reading lists and policies -/

theorem items_map {α : Type} {convert : Conversion α} {tree : α → Tree}
    (hEach : ∀ a, convert (tree a) = .ok a) (values : List α) :
    items convert (values.map tree) = .ok values := by
  rw [items]
  -- where the places begin to count shows only in faults
  generalize 0 = start
  induction values generalizing start with
  | nil => rfl
  | cons value values ih =>
    rw [List.map_cons, List.zipIdx_cons, List.mapM_cons, ih]
    dsimp only
    rw [hEach]
    rfl

/-- A list of texts is read as it is. -/
theorem list_strings (origin : Option String) (texts : List String) :
    list string (.list origin (texts.map fun text => .scalar origin (.string text))) = .ok texts := by
  have hEach : ∀ text : String, string (.scalar origin (.string text)) = .ok text := fun _ => rfl
  exact items_map hEach texts

/-- A word is read as it is. -/
theorem uint64_word (origin : Option String) (n : UInt64) :
    uint64 (.scalar origin (.integer n.toNat)) = .ok n := by
  have hNonneg : (0 : Int) ≤ n.toNat := Int.natCast_nonneg _
  rw [uint64, if_pos hNonneg, Int.toNat_natCast, Nat.toUInt64_eq, UInt64.ofNat_toNat]

theorem fallback_named {name : String} {policy : FallbackPolicy}
    (hName : FallbackPolicy.ofName? name.toLower = some policy) (origin : Option String) :
    fallback (.scalar origin (.string name)) = .ok policy := by
  rw [fallback, fallback.named, hName]

end Conversion

/-! ## Values in files -/

theorem ofItems_strings (file : String) (texts : List String) :
    Tree.ofItems file (texts.map .string) =
      texts.map fun text => .scalar (some file) (.string text) := by
  induction texts with
  | nil => rfl
  | cons text texts ih =>
    rw [List.map_cons, Tree.ofItems, ih]
    rfl

/-- What a file has for a value is read as that value, and is no table. -/
theorem convert_inFile {kind : Kind} {value : kind.Value} {toml : Toml}
    (hWritten : kind.InFile value toml) (file : String) :
    kind.convert (Tree.ofToml file toml) = .ok value ∧ (Tree.ofToml file toml).Flat := by
  cases kind with
  | text =>
    subst hWritten
    rw [Tree.ofToml]
    exact ⟨rfl, Tree.flat_scalar _ _⟩
  | seconds =>
    subst hWritten
    rw [Tree.ofToml]
    exact ⟨Conversion.uint64_word (some file) value, Tree.flat_scalar _ _⟩
  | names =>
    subst hWritten
    rw [Tree.ofToml, ofItems_strings]
    exact ⟨Conversion.list_strings _ value, Tree.flat_list _ _⟩
  | policy =>
    obtain ⟨name, rfl, hName⟩ := hWritten
    rw [Tree.ofToml]
    exact ⟨Conversion.fallback_named hName (some file), Tree.flat_scalar _ _⟩

/-! ## Values in variables -/

/-- Digits have no case. -/
theorem toLower_of_isDigit {c : Char} (hDigit : c.isDigit) : c.toLower = c := by
  have hNotUpper : ¬ (c.val ≥ 'A'.val ∧ c.val ≤ 'Z'.val) := by
    intro hUpper
    have hLast : c.val ≤ '9'.val := of_decide_eq_true ((Bool.and_eq_true _ _).mp hDigit).2
    exact absurd (UInt32.le_trans hUpper.1 hLast) (by decide)
  exact dif_neg hNotUpper

/-- A sign that does not count stands only at the head. -/
theorem natural?_unsignedDigits {text : List Char} {n : Nat}
    (hDigits : Decimal.natural? (Endpoint.unsignedDigits text) = some n) :
    ∃ digits, Decimal.natural? digits = some n ∧ (text = '+' :: digits ∨ text = digits) := by
  refine ⟨Endpoint.unsignedDigits text, hDigits, ?_⟩
  unfold Endpoint.unsignedDigits
  split
  · exact Or.inl rfl
  · exact Or.inr rfl

/-- A number written in digits has no case, with its sign or without. -/
theorem toLower_of_natural {text : String} {n : Nat}
    (hDigits : Decimal.natural? (Endpoint.unsignedDigits text.toList) = some n) :
    text.toLower = text := by
  obtain ⟨digits, hNatural, hText⟩ := natural?_unsignedDigits hDigits
  obtain ⟨-, hAll, -⟩ := Decimal.natural?_eq_some_iff.mp hNatural
  have hSame : ∀ c ∈ digits, c.toLower = id c := fun c hMem => toLower_of_isDigit (hAll c hMem)
  have hLower : digits.map Char.toLower = digits := calc
    digits.map Char.toLower = digits.map id := List.map_congr_left hSame
    _ = digits := List.map_id digits
  have hMap : text.toLower.toList = text.toList.map Char.toLower := String.toList_map
  rw [← String.toList_inj, hMap]
  rcases hText with hText | hText
  · rw [hText, List.map_cons, hLower]
    rfl
  · rw [hText, hLower]

theorem integer?_of_natural {text : String} {n : Nat}
    (hDigits : Decimal.natural? (Endpoint.unsignedDigits text.toList) = some n)
    (hLt : n < Decimal.signedCount) : Environment.integer? text = some (n : Int) := by
  obtain ⟨digits, hNatural, hText⟩ := natural?_unsignedDigits hDigits
  obtain ⟨-, hAll, -⟩ := Decimal.natural?_eq_some_iff.mp hNatural
  have hWord : Decimal.isSignedWord n := by
    rw [Decimal.isSignedWord, Bool.and_eq_true, decide_eq_true_eq, decide_eq_true_eq]
    omega
  have hSome : ((Decimal.natural? digits).map Int.ofNat).filter Decimal.isSignedWord =
      some (n : Int) := by
    rw [hNatural]
    exact Option.filter_some_pos hWord
  rw [Environment.integer?]
  rcases hText with hText | hText
  · rw [hText]
    exact hSome
  · -- a text of digits begins with no sign
    rw [hText]
    split
    · exact absurd (hAll '-' List.mem_cons_self) (by decide)
    · exact absurd (hAll '+' List.mem_cons_self) (by decide)
    · exact hSome

namespace Environment

theorem value_of_natural {text : String} {n : Nat}
    (hDigits : Decimal.natural? (Endpoint.unsignedDigits text.toList) = some n)
    (hLt : n < Decimal.signedCount) (name : String) :
    value name text = .scalar (some layerName) (.integer n) := by
  have hLower := toLower_of_natural hDigits
  have hNone : ∀ word ∈ ["true", "false"],
      Decimal.natural? (Endpoint.unsignedDigits word.toList) = none := by decide
  have hNe : ∀ word ∈ ["true", "false"], text ≠ word := by
    rintro word hMem rfl
    rw [hNone text hMem] at hDigits
    cases hDigits
  rw [value, hLower, if_neg (hNe "true" (by simp)), if_neg (hNe "false" (by simp)),
    integer?_of_natural hDigits hLt]

theorem value_of_plain {text : String} (hPlain : Plain text) (name : String) :
    value name text =
      if name = "roles" then
        .list (some layerName) ((Text.stringParts ',' text).map fun part =>
          .scalar (some layerName) (.string part))
      else .scalar (some layerName) (.string text) := by
  have hNumber : Decimal.parse? text = none := Option.isNone_iff_eq_none.mp hPlain.notNumber
  rw [value, if_neg hPlain.notTrue, if_neg hPlain.notFalse, hPlain.notInteger, hNumber]

end Environment

/-- What a variable has for a value is read as that value, and is no table. -/
theorem convert_inVariable {kind : Kind} {value : kind.Value} {written name : String}
    (hWritten : kind.InVariable value written) (hName : name = "roles" ↔ kind = .names) :
    kind.convert (Environment.value name written) = .ok value ∧
      (Environment.value name written).Flat := by
  cases kind with
  | text =>
    obtain ⟨rfl, hPlain⟩ := hWritten
    rw [Environment.value_of_plain hPlain, if_neg (by simp [hName])]
    exact ⟨rfl, Tree.flat_scalar _ _⟩
  | seconds =>
    rw [Environment.value_of_natural hWritten.1 hWritten.2]
    exact ⟨Conversion.uint64_word (some Environment.layerName) value, Tree.flat_scalar _ _⟩
  | names =>
    obtain ⟨rfl, hPlain⟩ := hWritten
    rw [Environment.value_of_plain hPlain, if_pos (hName.mpr rfl)]
    exact ⟨Conversion.list_strings _ _, Tree.flat_list _ _⟩
  | policy =>
    rw [Environment.value_of_plain hWritten.2, if_neg (by simp [hName])]
    exact ⟨Conversion.fallback_named hWritten.1 (some Environment.layerName), Tree.flat_scalar _ _⟩

/-! ## Leaves -/

/-- The single values of the settings. -/
inductive Leaf where
  | endpoint
  | apiPath
  | probeTimeout
  | requestTimeout
  | userAgent
  | roles
  | fallback
  deriving DecidableEq

namespace Leaf

/-- The kind of a leaf's value. -/
abbrev kind : Leaf → Kind
  | endpoint | apiPath | userAgent => .text
  | probeTimeout | requestTimeout => .seconds
  | roles => .names
  | fallback => .policy

/-- The values of a leaf. -/
abbrev Value (leaf : Leaf) : Type := leaf.kind.Value

/-- The value of a leaf in settings. -/
def get : (leaf : Leaf) → BootstrapSettings → leaf.Value
  | endpoint, settings => settings.client.endpoint
  | apiPath, settings => settings.client.apiPath
  | probeTimeout, settings => settings.client.probeTimeout
  | requestTimeout, settings => settings.client.requestTimeout
  | userAgent, settings => settings.client.userAgent
  | roles, settings => settings.roles
  | fallback, settings => settings.fallback

/-- The names that lead to a leaf. -/
def path : Leaf → List String
  | endpoint => ["client", "endpoint"]
  | apiPath => ["client", "api_path"]
  | probeTimeout => ["client", "probe_timeout_seconds"]
  | requestTimeout => ["client", "request_timeout_seconds"]
  | userAgent => ["client", "user_agent"]
  | roles => ["roles"]
  | fallback => ["fallback"]

/-- The name of a leaf: the names that lead to it, with points between them. -/
def name (leaf : Leaf) : String := ".".intercalate leaf.path

/-- The environment variable of a leaf. -/
def variableName : Leaf → String
  | endpoint => "KVCLUSTER_CLIENT__ENDPOINT"
  | apiPath => "KVCLUSTER_CLIENT__API_PATH"
  | probeTimeout => "KVCLUSTER_CLIENT__PROBE_TIMEOUT_SECONDS"
  | requestTimeout => "KVCLUSTER_CLIENT__REQUEST_TIMEOUT_SECONDS"
  | userAgent => "KVCLUSTER_CLIENT__USER_AGENT"
  | roles => "KVCLUSTER_ROLES"
  | fallback => "KVCLUSTER_FALLBACK"

/-- Paths to leaves end where they end: none goes on to another leaf. -/
theorem eq_of_path_prefix {leaf other : Leaf} (hPrefix : leaf.path <+: other.path) :
    leaf = other := by
  revert hPrefix
  cases leaf <;> cases other <;> simp [path]

theorem path_ne_nil (leaf : Leaf) : leaf.path ≠ [] := by
  cases leaf <;> exact List.cons_ne_nil _ _

theorem path_lower (leaf : Leaf) : ∀ name ∈ leaf.path, Text.lower name = name := by
  cases leaf <;> decide +kernel

theorem lower_name (leaf : Leaf) : Text.lower leaf.name = leaf.name := by
  cases leaf <;> decide +kernel

/-- The name of a leaf is read as the path to it. -/
theorem path?_name (leaf : Leaf) : Tree.path? leaf.name.toList = some (leaf.path.map .child) := by
  cases leaf <;> decide +kernel

theorem name_ne_client (leaf : Leaf) : leaf.name ≠ "client" := by
  cases leaf <;> decide +kernel

/-- The name of a leaf leads through the root to where its path begins. -/
theorem head?_path_of_name {leaf : Leaf} {name : String} (hName : leaf.name = Text.lower name) :
    leaf.path.head? = some (Tree.rootName name) := by
  rw [Tree.rootName, ← hName, path?_name]
  cases leaf <;> rfl

/-- Leaves of one name have one path. -/
theorem name_injective {leaf other : Leaf} (hName : leaf.name = other.name) : leaf = other := by
  have hSteps : some (leaf.path.map Tree.Step.child) = some (other.path.map Tree.Step.child) := by
    rw [← path?_name, ← path?_name, hName]
  have hPath : leaf.path = other.path :=
    (List.map_inj_right fun _ _ => Tree.Step.child.inj).mp (Option.some.inj hSteps)
  exact eq_of_path_prefix (hPath ▸ List.prefix_refl _)

/-- A leaf stands in the client's table or right at the root. -/
theorem path_cases (leaf : Leaf) :
    (∃ field, leaf.path = ["client", field]) ∨
      ∃ key, leaf.path = [key] ∧ key ∈ ["roles", "fallback"] := by
  cases leaf with
  | endpoint | apiPath | probeTimeout | requestTimeout | userAgent => exact Or.inl ⟨_, rfl⟩
  | roles | fallback => exact Or.inr ⟨_, rfl, by simp⟩

/-- The leaves in the client's table are those whose name begins with it. -/
theorem path_eq_client_iff {leaf : Leaf} {field : String} :
    leaf.path = ["client", field] ↔ leaf.name = "client." ++ field := by
  have hName : ∀ other, ".".intercalate ["client", other] = "client." ++ other := by
    intro other
    show "client" ++ "." ++ other = "client." ++ other
    congr 1
  constructor
  · intro hPath
    rw [name, hPath, hName]
  · intro hEq
    rcases leaf.path_cases with ⟨other, hPath⟩ | ⟨key, hPath, hMem⟩
    · rw [name, hPath, hName] at hEq
      rw [hPath, String.append_right_inj _ |>.mp hEq]
    · -- what stands at the root has another first letter
      have hOther : ∀ key ∈ ["roles", "fallback"], key.toList.head? ≠ some 'c' := by decide
      have hKey : key = "client." ++ field := by
        rw [name, hPath] at hEq
        exact hEq
      have hHead : key.toList.head? = some 'c' := by
        rw [hKey, String.toList_append]
        rfl
      exact absurd hHead (hOther key hMem)

theorem settingName?_variableName (leaf : Leaf) :
    Environment.settingName? leaf.variableName = some leaf.name := by
  cases leaf <;> decide +kernel

/-- Only one leaf has a list of names. -/
theorem name_eq_roles_iff (leaf : Leaf) : leaf.name = "roles" ↔ leaf.kind = .names := by
  have hRoles : Leaf.roles.name = "roles" := rfl
  constructor
  · intro hName
    obtain rfl : leaf = .roles := name_injective (hName.trans hRoles.symm)
    rfl
  · intro hKind
    cases leaf with
    | roles => exact hRoles
    | _ => cases hKind

end Leaf

end ClusterBootstrap.Settings
