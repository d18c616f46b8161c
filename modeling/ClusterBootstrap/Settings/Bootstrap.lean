import ClusterBootstrap.Settings.Client
import ClusterBootstrap.Text.Blank

/-!
# Bootstrap settings

What a run is to do: which control plane to talk to, which roles to assign, and what to do when the
endpoint does not know itself among the servers.
-/

namespace ClusterBootstrap

/-- What to do when no listed server has the endpoint's own uri. -/
inductive FallbackPolicy where
  /-- Take the first server. -/
  | firstNode
  /-- Give up. -/
  | fail
  deriving DecidableEq, Repr, Inhabited

namespace FallbackPolicy

/-- The name of a policy in documents. -/
def name : FallbackPolicy → String
  | firstNode => "first-node"
  | fail => "fail"

/-- The policy of a name. -/
def ofName? (name : String) : Option FallbackPolicy :=
  if name = firstNode.name then some firstNode
  else if name = fail.name then some fail
  else none

/-- The name of a policy in the log. -/
def debug : FallbackPolicy → String
  | firstNode => "FirstNode"
  | fail => "Fail"

/-- Reads a policy by its name. -/
def decode : Json.Decoder FallbackPolicy :=
  Json.Decoder.variant fun name value =>
    match ofName? name with
    | some policy => Json.Decoder.bare policy value
    | none => .error (Json.Decoder.unknownVariant name [firstNode.name, fail.name])

end FallbackPolicy

/-- The settings of a bootstrap run. -/
structure BootstrapSettings where
  client : ClientSettings := .default
  /-- The roles to assign, in order. -/
  roles : List String := ["key-value"]
  fallback : FallbackPolicy := .firstNode
  deriving DecidableEq, Repr, Inhabited

namespace BootstrapSettings

/-- The default settings. -/
def default : BootstrapSettings := {}

/-- Checks the roles: at least one, and none blank. -/
def checkRoles (roles : List String) : Except SettingsFault Unit :=
  if roles = [] then .error .noRoles
  else
    match roles.find? Text.isBlank with
    | some role => .error (.blankRole role)
    | none => .ok ()

/-- Checks the settings and reports the first fault: the client's, then the roles'. -/
def validate (settings : BootstrapSettings) : Except SettingsFault Unit := do
  settings.client.validate
  checkRoles settings.roles

/-- The settings as JSON. -/
def toJson (settings : BootstrapSettings) : Json :=
  .object [
    ("client", settings.client.toJson), ("roles", .strings settings.roles),
    ("fallback", .string settings.fallback.name)]

open Json.Fields in
/-- Reads settings; what is absent has its default. -/
def decode : Json.Decoder BootstrapSettings :=
  record "BootstrapConfig" 3 <|
    BootstrapSettings.mk <$> defaulted "client" ClientSettings.decode default.client
      <*> defaulted "roles" (Json.Decoder.list Json.Decoder.string) default.roles
      <*> defaulted "fallback" FallbackPolicy.decode default.fallback

/-- The settings with every field named, for the log. -/
def debug (settings : BootstrapSettings) : String :=
  "BootstrapConfig \x7b client: " ++ settings.client.debug ++
    ", roles: " ++ Text.quotedList settings.roles ++
    ", fallback: " ++ settings.fallback.debug ++ " \x7d"

end BootstrapSettings

end ClusterBootstrap
