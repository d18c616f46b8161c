import ClusterBootstrap.Command.Arguments
import ClusterBootstrap.Settings.Bootstrap
import ClusterBootstrap.Settings.Environment

/-!
# Loading settings

Settings are taken from the defaults, then a file if one is named, then the environment, and last the
command line; what comes later wins.  Where the three lower layers give a value of another kind than
asked for, it is converted if that makes sense.
-/

namespace ClusterBootstrap.Settings

/-! ## Faults -/

/-- Why settings cannot be loaded. -/
inductive LoadFault where
  | missingFile (name : String)
  /-- The file is no TOML. -/
  | invalidToml (file : String)
  /-- A value cannot be converted; its path and its layer are told as far as they are known. -/
  | inconvertible (found expected : String) (path : Option String) (origin : Option String)
  /-- A value is of another kind than its place. -/
  | wrongKind (found expected : String)
  | unknownVariant (choice name : String)
  /-- A choice is neither a name nor a table with one entry. -/
  | noVariant (choice : String)
  deriving DecidableEq, Repr

namespace LoadFault

/-- The wording of a fault. -/
def text (fault : LoadFault) : String :=
  "invalid configuration: " ++ match fault with
    | missingFile name => "configuration file \"" ++ name ++ "\" not found"
    | invalidToml file => "TOML parse error in " ++ file
    | inconvertible found expected path origin =>
      "invalid type: " ++ found ++ ", expected " ++ expected ++
        (path.map fun p => " for key `" ++ p ++ "`").getD "" ++
        (origin.map fun o => " in " ++ o).getD ""
    | wrongKind found expected => "invalid type: " ++ found ++ ", expected " ++ expected
    | unknownVariant choice name =>
      "enum " ++ choice ++ " does not have variant constructor " ++ name
    | noVariant choice =>
      "value of enum " ++ choice ++
        " should be represented by either string or table with exactly one key"

/-- A fault of a value, seen from the table or list around it. -/
def within (step : String) : LoadFault → LoadFault
  | inconvertible found expected none origin => inconvertible found expected (some step) origin
  | inconvertible found expected (some path) origin =>
    let joined := if path.startsWith "[" then step ++ path else step ++ "." ++ path
    inconvertible found expected (some joined) origin
  | other => other

end LoadFault

/-! ## Converting values -/

/-- Reads a value of type `α` out of a tree. -/
abbrev Conversion (α : Type) := Tree → Except LoadFault α

namespace Conversion

/-- A floating-point number written out, with a fraction even if it is whole. -/
def floatText (x : Float) : String :=
  if x.isNaN || x.isInf then Decimal.plainText x
  else (⟨none, none, true⟩ : Decimal.Layout).text (Decimal.shortest x)

/-- What a value that cannot be converted is called. -/
def foundText : Tree → String
  | .scalar _ .empty => "unit value"
  | .scalar _ (.bool b) => "boolean `" ++ (if b then "true" else "false") ++ "`"
  | .scalar _ (.integer n) => "64-bit integer `" ++ toString n ++ "`"
  | .scalar _ (.float x) => "floating point `" ++ Decimal.plainText x ++ "`"
  | .scalar _ (.string s) => "string " ++ Text.quoted s
  | .list .. => "sequence"
  | .table .. => "map"

/-- What a value of the wrong kind is called. -/
def kindText : Tree → String
  | .scalar _ (.integer n) => "integer `" ++ toString n ++ "`"
  | .scalar _ (.float x) => "floating point `" ++ floatText x ++ "`"
  | other => foundText other

/-- The fault of a value that cannot be converted. -/
def inconvertible {α : Type} (tree : Tree) (expected : String) : Except LoadFault α :=
  .error (.inconvertible (foundText tree) expected none tree.origin)

/-- A text: any scalar has one. -/
def string : Conversion String
  | .scalar _ (.string s) => .ok s
  | .scalar _ (.bool b) => .ok (if b then "true" else "false")
  | .scalar _ (.integer n) => .ok (toString n)
  | .scalar _ (.float x) => .ok (Decimal.plainText x)
  | other => inconvertible other "a string"

/-- A number rounded to the nearest unsigned 64-bit integer, a half away from zero; what is out of range
becomes the nearest bound. -/
def roundToWord (x : Float) : UInt64 := x.round.toUInt64

/-- An unsigned 64-bit integer.  Texts may be numbers or switches, numbers are rounded. -/
def uint64 : Conversion UInt64
  | .scalar o (.integer n) =>
    if 0 ≤ n then .ok n.toNat.toUInt64
    else inconvertible (.scalar o (.integer n)) "an unsigned 64 bit or less integer"
  | .scalar o (.string s) =>
    let lower := s.toLower
    if ["true", "on", "yes"].contains lower then .ok 1
    else if ["false", "off", "no"].contains lower then .ok 0
    else
      match Arguments.seconds? s with
      | some n => .ok n
      | none => inconvertible (.scalar o (.string s)) "an integer"
  | .scalar _ (.bool b) => .ok (if b then 1 else 0)
  | .scalar _ (.float x) => .ok (roundToWord x)
  | other => inconvertible other "an integer"

/-- The items of a list, each converted. -/
def items {α : Type} (convert : Conversion α) (trees : List Tree) : Except LoadFault (List α) :=
  trees.zipIdx.mapM fun (tree, i) =>
    (convert tree).mapError (.within ("[" ++ toString i ++ "]"))

/-- A list. -/
def list {α : Type} (convert : Conversion α) : Conversion (List α)
  | .list _ trees => items convert trees
  | other => .error (.wrongKind (kindText other) "a sequence")

/-- A fallback policy by its name in any case, alone or as the only entry of a table. -/
def fallback : Conversion FallbackPolicy
  | .scalar _ (.string name) => named name
  | .table _ [(name, _)] => named name
  | _ => .error (.noVariant "FallbackPolicy")
where
  named (name : String) : Except LoadFault FallbackPolicy :=
    match FallbackPolicy.ofName? name.toLower with
    | some policy => .ok policy
    | none => .error (.unknownVariant "FallbackPolicy" name)

/-- The fields of a record: entries by name, or items by place. -/
structure Source where
  entries : List (String × Tree)
  items : List Tree

/-- The fields of a table, or of a list that has them in order. -/
def source (expected : String) : Tree → Except LoadFault Source
  | .table _ entries => .ok { entries, items := [] }
  | .list _ items => .ok { entries := [], items }
  | other => .error (.wrongKind (kindText other) ("struct " ++ expected))

/-- One field, by its name or its place; a default for one that is not there. -/
def field {α : Type} (source : Source) (name : String) (index : Nat) (convert : Conversion α)
    (default : α) : Except LoadFault α :=
  match source.entries.lookup name, source.items[index]? with
  | some tree, _ => (convert tree).mapError (.within name)
  | none, some tree => (convert tree).mapError (.within ("[" ++ toString index ++ "]"))
  | none, none => .ok default

/-- The client's settings. -/
def client : Conversion ClientSettings := fun tree => do
  let fields ← source "ClientConfig" tree
  let default := ClientSettings.default
  return {
    endpoint := ← field fields "endpoint" 0 string default.endpoint
    apiPath := ← field fields "api_path" 1 string default.apiPath
    probeTimeout := ← field fields "probe_timeout_seconds" 2 uint64 default.probeTimeout
    requestTimeout := ← field fields "request_timeout_seconds" 3 uint64 default.requestTimeout
    userAgent := ← field fields "user_agent" 4 string default.userAgent }

/-- All settings. -/
def bootstrap : Conversion BootstrapSettings := fun tree => do
  let fields ← source "BootstrapConfig" tree
  let default := BootstrapSettings.default
  return {
    client := ← field fields "client" 0 client default.client
    roles := ← field fields "roles" 1 (list string) default.roles
    fallback := ← field fields "fallback" 2 fallback default.fallback }

end Conversion

/-! ## Layers -/

/-- The defaults as a layer, which has no name. -/
def defaultLayer : List (String × Tree) :=
  let settings := BootstrapSettings.default
  let string (s : String) : Tree := .scalar none (.string s)
  let seconds (n : UInt64) : Tree := .scalar none (.integer n.toNat)
  [("client", .table none [
      ("endpoint", string settings.client.endpoint),
      ("api_path", string settings.client.apiPath),
      ("probe_timeout_seconds", seconds settings.client.probeTimeout),
      ("request_timeout_seconds", seconds settings.client.requestTimeout),
      ("user_agent", string settings.client.userAgent)]),
    ("roles", .list none (settings.roles.map string)),
    ("fallback", string settings.fallback.name)]

/-- The files that can be read, by their names. -/
abbrev Files := List (String × String)

/-- A file name without the parts that lead nowhere. -/
def plainName (name : String) : String :=
  let root := if name.startsWith "/" then "/" else ""
  root ++ "/".intercalate ((Text.stringParts '/' name).filter fun part => part ≠ "" && part ≠ ".")

/-- Whether a name can be that of a file and not only of a directory: nothing but a proper name follows its
last slash. -/
def namesFile (name : String) : Bool :=
  match (Text.stringParts '/' name).getLast? with
  | some last => last ≠ "" && last ≠ "." && last ≠ ".."
  | none => false

/-- The file of a name as it is, or with `.toml` behind it: its plain name and its text.  The ending goes to
the last part of the name, which a slash may follow. -/
def findFile? (files : Files) (name : String) : Option (String × String) :=
  let exact := plainName name
  let extended := exact ++ ".toml"
  let asItIs := if namesFile name then (files.lookup exact).map (exact, ·) else none
  asItIs.or (if namesFile exact then (files.lookup extended).map (extended, ·) else none)

/-- The layer of a file. -/
def fileLayer (files : Files) (name : String) : Except LoadFault (List (String × Tree)) :=
  match findFile? files name with
  | none => .error (.missingFile name)
  | some (file, text) =>
    match Toml.parse? text with
    | none => .error (.invalidToml file)
    | some entries => .ok (Tree.ofEntries file entries)

/-- The settings of the command line over others. -/
def applyArguments (args : Arguments) (settings : BootstrapSettings) : BootstrapSettings where
  client := { settings.client with
    endpoint := args.endpoint.getD settings.client.endpoint
    probeTimeout := args.probeTimeout.getD settings.client.probeTimeout
    requestTimeout := args.requestTimeout.getD settings.client.requestTimeout }
  roles := if args.roles.isEmpty then settings.roles else args.roles
  fallback := if args.strictSelf then .fail else settings.fallback

/-- Loads settings from the command line, the files and the environment. -/
def load (args : Arguments) (files : Files) (environment : List (String × String)) :
    Except LoadFault BootstrapSettings := do
  let fromFile ← match args.config with
    | some name => fileLayer files name
    | none => .ok []
  -- the lowest layer first
  let tree := Tree.overlay defaultLayer .fresh
  let tree := Tree.overlay fromFile tree
  let tree := Tree.overlay (Environment.layer environment) tree
  return applyArguments args (← Conversion.bootstrap tree)

end ClusterBootstrap.Settings
