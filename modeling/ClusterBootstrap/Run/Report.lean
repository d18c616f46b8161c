import ClusterBootstrap.Error
import ClusterBootstrap.Json.Printer
import ClusterBootstrap.Run.Phase
import ClusterBootstrap.Topology.ClusterState

/-!
# Reports

A report holds what a run has learned.  It is printed as a sequence of pieces, so that an output that
runs full in the middle can be accounted for exactly.
-/

namespace ClusterBootstrap

/-- How the bootstrap node was chosen. -/
inductive Selection where
  /-- Its uri is the endpoint's own. -/
  | selfMatch
  /-- No server has that uri, so the first one was taken. -/
  | fallback
  deriving DecidableEq, Repr

/-- The name of a selection. -/
def Selection.name : Selection → String
  | selfMatch => "SelfMatch"
  | fallback => "Fallback"

/-- The selection of a name. -/
def Selection.ofName? (name : String) : Option Selection :=
  [selfMatch, fallback].find? fun selection => selection.name = name

/-- What a run has learned. -/
structure Report where
  phase : Phase := .idle
  servers : List Node := []
  clusterState : Option ClusterState := none
  bootstrap : Option Node := none
  selection : Option Selection := none
  result : Option AssignmentResult := none
  error : Option BootstrapError := none

namespace Report

/-- The report of a run that has not started. -/
def empty : Report := {}

/-- Whether the run came to its goal. -/
def isSuccess (report : Report) : Bool := report.phase = .done

/-- The exit code that tells success. -/
def exitCode (report : Report) : Nat := if report.isSuccess then 0 else 1

/-! ## Printed form -/

/-- The line below the table of servers. -/
def separator : String := String.ofList (List.replicate 72 '-')

/-- The table of servers, one line for each, or nothing when there are none. -/
def serverLines (report : Report) : List String :=
  if report.servers.isEmpty then [] else report.servers.map Node.display ++ [separator]

/-- The uri that the endpoint gave as its own, as far as it is known. -/
def selfUri (report : Report) : String :=
  (report.clusterState.map ClusterState.selfUri).getD ""

/-- The lines about the chosen node. -/
def bootstrapLines (report : Report) : List String :=
  match report.bootstrap with
  | none => []
  | some node =>
    let choice :=
      if report.selection = some .fallback then
        "bootstrap: " ++ node.display ++ " (self uri " ++ Text.quoted report.selfUri ++
          " not discovered, using first server)"
      else "bootstrap: " ++ node.display
    match node.replicaset with
    | some replicaset =>
      [choice, "note: " ++ node.uri ++ " already belongs to replicaset " ++ replicaset]
    | none => [choice]

/-- The lines about an error: its message, and the response that came with it. -/
def errorLines (error : BootstrapError) : List String :=
  error.message :: (error.payload?.map Json.pretty).toList

/-- The lines about the outcome. -/
def outcomeLines (report : Report) : List String :=
  if report.isSuccess then ["success"]
  else "fail" :: (report.error.map errorLines).getD []

/-- Everything that is printed, line by line; a line may hold line breaks of its own. -/
def lines (report : Report) : List String :=
  report.serverLines ++ report.bootstrapLines ++ report.outcomeLines

/-- Lines as one text, each ended by a line break. -/
def unlines (lines : List String) : String :=
  String.join (lines.map (· ++ "\n"))

/-- The printed report. -/
def text (report : Report) : String := unlines report.lines

end Report

end ClusterBootstrap
