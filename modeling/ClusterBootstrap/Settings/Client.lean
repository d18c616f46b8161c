import ClusterBootstrap.Json.Decoder
import ClusterBootstrap.Settings.Endpoint
import ClusterBootstrap.Settings.Fault

/-!
# Client settings

Where the control plane listens and how long its answers may take.
-/

namespace ClusterBootstrap

/-- The settings of the control-plane client. -/
structure ClientSettings where
  /-- `host:port` of the control plane. -/
  endpoint : String := "127.0.0.1:8081"
  /-- The path that accepts queries and mutations. -/
  apiPath : String := "/admin/api"
  /-- How many seconds the liveness probe may take. -/
  probeTimeout : UInt64 := 10
  /-- How many seconds a query or mutation may take. -/
  requestTimeout : UInt64 := 60
  userAgent : String := "kvcluster-client/0.1.0"
  deriving DecidableEq, Repr, Inhabited

namespace ClientSettings

/-- The default settings. -/
def default : ClientSettings := {}

/-- Default settings but for the endpoint. -/
def ofEndpoint (endpoint : String) : ClientSettings := { endpoint := endpoint }

/-! ## Validity -/

/-- Checks that an endpoint has a host and a port. -/
def checkEndpoint (endpoint : String) : Except SettingsFault Unit :=
  match Endpoint.splitLastColon endpoint.toList with
  | none => .error (.noPort endpoint)
  | some (host, port) =>
    if host = [] then .error (.emptyHost endpoint)
    else if (Endpoint.port? port).isNone then .error (.invalidPort endpoint)
    else .ok ()

/-- Whether a path is absolute. -/
def isAbsolute (path : String) : Bool :=
  path.toList.head? = some '/'

/-- Checks the settings and reports the first fault: endpoint, path, timeouts. -/
def validate (settings : ClientSettings) : Except SettingsFault Unit := do
  checkEndpoint settings.endpoint
  if ¬ isAbsolute settings.apiPath then throw (.relativeApiPath settings.apiPath)
  if settings.probeTimeout = 0 ∨ settings.requestTimeout = 0 then throw .zeroTimeout

/-! ## Addresses -/

/-- The address of the endpoint, as it is configured. -/
def baseUrl (settings : ClientSettings) : String := "http://" ++ settings.endpoint

/-- Where queries and mutations are sent. -/
def apiUrl (settings : ClientSettings) : String := settings.baseUrl ++ settings.apiPath

/-- Where the liveness probe is sent. -/
def probeUrl (settings : ClientSettings) : String := settings.baseUrl ++ "/"

/-! ## Written form -/

/-- The settings as JSON. -/
def toJson (settings : ClientSettings) : Json :=
  .object [
    ("endpoint", .string settings.endpoint), ("api_path", .string settings.apiPath),
    ("probe_timeout_seconds", .integer settings.probeTimeout.toNat),
    ("request_timeout_seconds", .integer settings.requestTimeout.toNat),
    ("user_agent", .string settings.userAgent)]

open Json.Fields in
/-- Reads settings; what is absent has its default. -/
def decode : Json.Decoder ClientSettings :=
  record "ClientConfig" 5 <|
    ClientSettings.mk <$> defaulted "endpoint" Json.Decoder.string default.endpoint
      <*> defaulted "api_path" Json.Decoder.string default.apiPath
      <*> defaulted "probe_timeout_seconds" Json.Decoder.uint64 default.probeTimeout
      <*> defaulted "request_timeout_seconds" Json.Decoder.uint64 default.requestTimeout
      <*> defaulted "user_agent" Json.Decoder.string default.userAgent

/-- The settings with every field named, for the log. -/
def debug (settings : ClientSettings) : String :=
  "ClientConfig \x7b endpoint: " ++ Text.quoted settings.endpoint ++
    ", api_path: " ++ Text.quoted settings.apiPath ++
    ", probe_timeout_seconds: " ++ toString settings.probeTimeout.toNat ++
    ", request_timeout_seconds: " ++ toString settings.requestTimeout.toNat ++
    ", user_agent: " ++ Text.quoted settings.userAgent ++ " \x7d"

end ClientSettings

end ClusterBootstrap
