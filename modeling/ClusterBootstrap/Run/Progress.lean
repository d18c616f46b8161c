import ClusterBootstrap.ControlPlane
import ClusterBootstrap.Run.Report

/-!
# The progress of a run

A run changes the report it fills in, the state of the control plane and the log.  The calls it has made
and the changes of phase it has asked for are kept beside them.  Its steps may fail, and a failure keeps
what was changed before it.
-/

namespace ClusterBootstrap

/-- What a run has done so far. -/
structure Progress (σ : Type) where
  report : Report := .empty
  plane : σ
  /-- The calls made, in order. -/
  calls : List Call := []
  /-- The records written, in order. -/
  log : List LogRecord := []
  /-- The changes of phase asked for, in order, each with the phase in which it was asked for. -/
  asked : List (Phase × Phase) := []

/-- A step of a run. -/
abbrev Run (σ α : Type) := ExceptT BootstrapError (StateM (Progress σ)) α

namespace Run

variable {σ α : Type}

/-- Writes records to the log. -/
def write (records : List LogRecord) : Run σ Unit :=
  modify fun p => { p with log := p.log ++ records }

/-- Changes the report. -/
def update (change : Report → Report) : Run σ Unit :=
  modify fun p => { p with report := change p.report }

/-- Makes a call: it is noted, its records are added to the log, and its error ends the run. -/
def perform (call : Call) (act : σ → Outcome σ α) : Run σ α := do
  let p ← get
  let outcome := act p.plane
  set { p with
    plane := outcome.next, calls := p.calls ++ [call], log := p.log ++ outcome.log }
  outcome.answer

/-- The record of a change of phase, allowed or not. -/
def phaseRecord (phase next : Phase) : LogRecord :=
  if phase.canAdvanceTo next then
    { level := .info, source := .orchestrator
      text := "Run state " ++ phase.name ++ " -> " ++ next.name }
  else
    { level := .warn, source := .orchestrator
      text := "Ignoring run state transition " ++ phase.name ++ " -> " ++ next.name }

/-- Asks for the next phase; a change that is not allowed is noted and ignored. -/
def enter (next : Phase) (p : Progress σ) : Progress σ :=
  { p with
    report := { p.report with phase := p.report.phase.advance next }
    log := p.log ++ [phaseRecord p.report.phase next]
    asked := p.asked ++ [(p.report.phase, next)] }

end Run

end ClusterBootstrap
