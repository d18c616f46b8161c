/-!
# Log records

A run leaves a trail of records.  Each has a level, the part of the program it comes from, the call to
the control plane during which it was written, if any, and a text.
-/

namespace ClusterBootstrap

namespace Log

/-- How much a record matters; from the most to the least. -/
inductive Level where
  | error
  | warn
  | info
  | debug
  | trace
  deriving DecidableEq, Repr

namespace Level

/-- The name of a level. -/
def name : Level → String
  | error => "ERROR"
  | warn => "WARN"
  | info => "INFO"
  | debug => "DEBUG"
  | trace => "TRACE"

/-- The detail of a level: one for errors, and one more for each level that matters less. -/
def detail : Level → Nat
  | error => 1
  | warn => 2
  | info => 3
  | debug => 4
  | trace => 5

end Level

/-- The part of the program that a record comes from. -/
inductive Source where
  | client
  | locator
  | assigner
  | orchestrator
  | command
  deriving DecidableEq, Repr

/-- The dotted path under which records of a source are filtered and shown. -/
def Source.path : Source → String
  | client => "kvcluster_client::rest_client"
  | locator => "kvcluster_cluster::locator"
  | assigner => "kvcluster_cluster::assigner"
  | orchestrator => "kvcluster_cluster::orchestrator"
  | command => "kvcluster_bootstrap"

/-- The call to the control plane during which a record was written. -/
structure Span where
  name : String
  /-- The uri of the node that the call is about. -/
  uri : Option String := none
  deriving DecidableEq, Repr

/-- A span before a line. -/
def Span.text (span : Span) : String :=
  span.name ++ match span.uri with
    | some uri => "\x7buri=" ++ uri ++ "\x7d"
    | none => ""

end Log

/-- One record of the log. -/
structure LogRecord where
  level : Log.Level
  source : Log.Source
  span : Option Log.Span := none
  text : String
  deriving DecidableEq, Repr

namespace LogRecord

/-- The record as a level and a text. -/
def brief (r : LogRecord) : String := r.level.name ++ " " ++ r.text

/-- Whether a record is of level INFO or matters more. -/
def isNotable (r : LogRecord) : Bool := r.level.detail ≤ Log.Level.info.detail

end LogRecord

end ClusterBootstrap
