import ClusterBootstrap.Log.Record
import ClusterBootstrap.Run.Report
import ClusterBootstrap.Settings.Bootstrap

/-!
# Locating the bootstrap node

The bootstrap node is the first listed server whose uri is the endpoint's own.  Without one the policy
decides, but an empty list is always an error.
-/

namespace ClusterBootstrap

/-- A chosen server: its place in the list, and how it was chosen. -/
structure Located where
  index : Nat
  node : Node
  selection : Selection
  deriving DecidableEq, Repr

/-- Chooses the bootstrap node. -/
def locate (nodes : List Node) (state : ClusterState) (policy : FallbackPolicy) :
    Except BootstrapError Located :=
  match nodes.zipIdx.find? fun entry => entry.1.uri = state.selfUri with
  | some (node, index) => .ok { index, node, selection := .selfMatch }
  | none =>
    match nodes, policy with
    | [], _ => .error .noServers
    | first :: _, .firstNode => .ok { index := 0, node := first, selection := .fallback }
    | _ :: _, .fail => .error (.selfNotListed state.selfUri (nodes.map Node.uri))

/-- The warning that goes with a choice that is only a fallback. -/
def Located.log (located : Located) (nodes : List Node) (state : ClusterState) : List LogRecord :=
  match located.selection with
  | .selfMatch => []
  | .fallback =>
    [{ level := .warn, source := .locator
       text := "Self uri " ++ Text.quoted state.selfUri ++ " is not among " ++
        toString nodes.length ++ " discovered servers, falling back to " ++ located.node.uri }]

end ClusterBootstrap
