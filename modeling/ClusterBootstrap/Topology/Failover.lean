import ClusterBootstrap.Json.Decoder
import ClusterBootstrap.Text.Quoted

/-!
# Failover modes

The control plane names its failover mode.  Three names are known; any other is kept as it is.
-/

namespace ClusterBootstrap

/-- How the cluster replaces a leader that failed. -/
inductive FailoverMode where
  | disabled
  | eventual
  | stateful
  /-- A mode this library has no name for. -/
  | other (mode : String)
  deriving DecidableEq, Repr, Inhabited

namespace FailoverMode

/-- Older control planes report failover as an on/off flag. -/
def ofFlag (enabled : Bool) : FailoverMode :=
  if enabled then .eventual else .disabled

/-- The mode of a reported name. -/
def ofName (name : String) : FailoverMode :=
  if name = "disabled" then .disabled
  else if name = "eventual" then .eventual
  else if name = "stateful" then .stateful
  else .other name

/-- The name the control plane reports. -/
def display : FailoverMode → String
  | .disabled => "disabled"
  | .eventual => "eventual"
  | .stateful => "stateful"
  | .other mode => mode

/-- The mode with its kind, which tells a known mode from an unknown one of its name. -/
def debug : FailoverMode → String
  | .disabled => "Disabled"
  | .eventual => "Eventual"
  | .stateful => "Stateful"
  | .other mode => "Other(" ++ Text.quoted mode ++ ")"

/-- A mode as JSON: a bare name, or an object that holds the unknown mode. -/
def toJson : FailoverMode → Json
  | .disabled => .string "Disabled"
  | .eventual => .string "Eventual"
  | .stateful => .string "Stateful"
  | .other mode => .object [("Other", .string mode)]

/-- Reads what `toJson` writes; a known mode may also be an object holding null. -/
def decode : Json.Decoder FailoverMode :=
  Json.Decoder.variant fun name value =>
    if name = "Disabled" then Json.Decoder.bare .disabled value
    else if name = "Eventual" then Json.Decoder.bare .eventual value
    else if name = "Stateful" then Json.Decoder.bare .stateful value
    else if name = "Other" then (Json.Decoder.carrying Json.Decoder.string value).map .other
    else .error (Json.Decoder.unknownVariant name ["Disabled", "Eventual", "Stateful", "Other"])

end FailoverMode

end ClusterBootstrap
