import ClusterBootstrap.Output
import ClusterBootstrap.Run.Connect
import ClusterBootstrap.Settings.Load

/-!
# Carrying out a command line

The settings are loaded, the run is made, and its report is printed.  Whatever stops this is told on the
output instead, and makes the command fail.
-/

namespace ClusterBootstrap

/-- What is left when a command line has been carried out. -/
structure CommandOutcome where
  exitCode : Nat
  output : Output
  log : List LogRecord := []
  network : Net.Network

namespace CommandOutcome

/-- The lines that tell a failure. -/
def failureLines (message : String) : List String := ["fail", message]

/-- A failure is told as far as the output takes it; that it may take nothing more is no further
failure. -/
def failed (message : String) (output : Output) (log : List LogRecord) (network : Net.Network) :
    CommandOutcome where
  exitCode := 1
  output := ((Output.putLines (failureLines message)).run output).2
  log
  network

/-- Prints the report of a run. -/
def reported (report : Report) (output : Output) (log : List LogRecord) (network : Net.Network) :
    CommandOutcome :=
  match (Output.putLines report.lines).run output with
  | (.ok (), output) => { exitCode := report.exitCode, output, log, network }
  | (.error fault, output) => failed fault.text output log network

/-- The message of settings that cannot be loaded. -/
def loadMessage (fault : Settings.LoadFault) : String :=
  "failed to load configuration: " ++ fault.text

/-- The first record of a command, about the settings it runs with. -/
def settingsRecord (settings : BootstrapSettings) : LogRecord :=
  { level := .debug, source := .command
    text := "Effective configuration: " ++ settings.debug }

end CommandOutcome

/-- Carries out a command line. -/
def Arguments.perform (args : Arguments) (files : Settings.Files)
    (environment : List (String × String)) (network : Net.Network) (output : Output) :
    CommandOutcome :=
  match Settings.load args files environment with
  | .error fault =>
    CommandOutcome.failed (CommandOutcome.loadMessage fault) output [] network
  | .ok settings =>
    let opening := CommandOutcome.settingsRecord settings
    match connect settings network with
    | .error e => CommandOutcome.failed e.message output [opening] network
    | .ok progress =>
      CommandOutcome.reported progress.report output (opening :: progress.log) progress.plane

end ClusterBootstrap
