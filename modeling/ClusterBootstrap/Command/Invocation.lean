import ClusterBootstrap.Command.Outcome
import ClusterBootstrap.Log.Filter

/-!
# A call of the program

A call reads its arguments, carries them out and shows the log.  Arguments that ask for a text get that
text; arguments that cannot be read end the call with a code of their own.
-/

namespace ClusterBootstrap

/-- What a call leaves behind. -/
structure Invocation where
  exitCode : Nat
  output : Output := .unlimited
  /-- The lines of the log that are shown. -/
  shown : List String := []
  network : Net.Network

namespace Invocation

/-- The variable that asks for a log filter. -/
def filterVariable : String := "RUST_LOG"

/-- A call that its arguments end. -/
def interrupted (i : Interruption) (network : Net.Network) : Invocation where
  exitCode := i.exitCode
  output := ((Output.put (i.shown?.getD "")).run .unlimited).2
  network

/-- A call of the program. -/
def ofArguments (argv : List String) (files : Settings.Files)
    (environment : List (String × String)) (network : Net.Network) : Invocation :=
  match Arguments.parse argv with
  | .error i => interrupted i network
  | .ok args =>
    let filter := Log.Filter.choose (environment.lookup filterVariable) args.verbose
    let outcome := args.perform files environment network .unlimited
    { exitCode := outcome.exitCode, output := outcome.output
      shown := filter.lines outcome.log, network := outcome.network }

end Invocation

end ClusterBootstrap
