import ClusterBootstrap.Error
import ClusterBootstrap.Text.Quoted

/-!
# Faults of settings

Each rule that settings must obey has a fault of its own, which names the offending value.
-/

namespace ClusterBootstrap

/-- Why settings are refused. -/
inductive SettingsFault where
  /-- The endpoint has no colon. -/
  | noPort (endpoint : String)
  | emptyHost (endpoint : String)
  | invalidPort (endpoint : String)
  | relativeApiPath (path : String)
  | zeroTimeout
  | noRoles
  | blankRole (role : String)
  deriving DecidableEq, Repr

namespace SettingsFault

/-- The wording of a fault. -/
def text : SettingsFault → String
  | noPort endpoint => "endpoint `" ++ endpoint ++ "` must have the form host:port"
  | emptyHost endpoint => "endpoint `" ++ endpoint ++ "` has an empty host"
  | invalidPort endpoint => "endpoint `" ++ endpoint ++ "` has an invalid port"
  | relativeApiPath path => "api path `" ++ path ++ "` must start with '/'"
  | zeroTimeout => "timeouts must be greater than zero"
  | noRoles => "at least one role must be requested"
  | blankRole role => "invalid role name " ++ Text.quoted role

/-- A fault as an error of the run. -/
def toError (fault : SettingsFault) : BootstrapError := .configuration fault.text

end SettingsFault

end ClusterBootstrap
