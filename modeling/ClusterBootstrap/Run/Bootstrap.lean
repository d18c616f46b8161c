import ClusterBootstrap.Run.Assign
import ClusterBootstrap.Run.Locate

/-!
# A bootstrap run

A run probes the control plane, asks it for its servers and its state, locates the bootstrap node and
assigns the roles.  Calls are made strictly one after the other, and none is made twice.
-/

namespace ClusterBootstrap

variable {σ : Type}

/-- Asks for the servers and the state of the cluster, once the probe has succeeded. -/
def discover (plane : ControlPlane σ) : Run σ (List Node × ClusterState) := do
  Run.perform .probe plane.probe
  let servers ← Run.perform .servers plane.servers
  Run.update fun report => { report with servers }
  let state ← Run.perform .clusterState plane.clusterState
  return (servers, state)

/-- Locates the bootstrap node and goes on to assigning.  The state of the cluster is reported only once
the node is located. -/
def settle (servers : List Node) (state : ClusterState) (policy : FallbackPolicy) :
    Run σ Located := do
  let located ← locate servers state policy
  Run.write (located.log servers state)
  Run.update fun report =>
    { report with
      selection := some located.selection
      bootstrap := some located.node
      clusterState := some state }
  modify (Run.enter .located)
  modify (Run.enter .assigning)
  return located

/-- The steps of a run up to its outcome. -/
def drive (plane : ControlPlane σ) (settings : BootstrapSettings) : Run σ Unit := do
  settings.validate.mapError SettingsFault.toError
  modify (Run.enter .discovering)
  let (servers, state) ← discover plane
  let located ← settle servers state settings.fallback
  let result ← assignRoles plane located.node settings.roles state
  Run.update fun report => { report with result := some result }

/-- The record of a failed run. -/
def failureRecord (endpoint : String) (phase : Phase) (error : BootstrapError) : LogRecord :=
  { level := .error, source := .orchestrator
    text := "Bootstrap of " ++ endpoint ++ " failed in " ++ phase.name ++ ": " ++ error.message }

/-- Ends a run: with success if all its steps were made, and otherwise with the error that stopped it. -/
def conclude (endpoint : String) :
    Except BootstrapError Unit × Progress σ → Progress σ
  | (.ok (), p) => Run.enter .done p
  | (.error e, p) =>
    Run.enter .failed
      { p with
        report := { p.report with error := some e }
        log := p.log ++ [failureRecord endpoint p.report.phase e] }

/-- A whole run, from a state of the control plane. -/
def bootstrap (plane : ControlPlane σ) (settings : BootstrapSettings) (start : σ) : Progress σ :=
  conclude plane.endpoint ((drive plane settings).run { plane := start })

end ClusterBootstrap
