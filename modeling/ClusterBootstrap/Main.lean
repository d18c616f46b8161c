import ClusterBootstrap.Command.Invocation

/-!
# The program

The outermost layer: it collects the arguments, the environment and the configuration file, and writes
what a call leaves behind.  It makes no connections, so every run of it ends at the probe as on a machine
without a route to the control plane.
-/

namespace ClusterBootstrap

/-- A network on which nothing can be reached. -/
def unreachableNetwork : Net.Network := .cutOff "Network is unreachable (os error 101)"

/-- The text of a file, if it can be read. -/
def readFile? (name : String) : IO (Option String) :=
  try
    return some (← IO.FS.readFile name)
  catch _ =>
    return none

/-- The files that a configuration name may stand for. -/
def readFiles (argv : List String) : IO Settings.Files := do
  match Arguments.parse argv with
  | .ok { config := some name, .. } =>
    let plain := Settings.plainName name
    [plain, plain ++ ".toml"].filterMapM fun file => do
      return (← readFile? file).map (file, ·)
  | _ => return []

/-- The variables of the environment. -/
def readVariables : IO (List (String × String)) := do
  let text := (← readFile? "/proc/self/environ").getD ""
  return (text.splitOn "\x00").filterMap fun entry =>
    match entry.splitOn "=" with
    | name :: value => if value.isEmpty then none else some (name, "=".intercalate value)
    | [] => none

end ClusterBootstrap

open ClusterBootstrap

/-- Makes one call and tells its exit code. -/
def main (argv : List String) : IO UInt32 := do
  let call := Invocation.ofArguments argv (← readFiles argv) (← readVariables) unreachableNetwork
  (← IO.getStdout).putStr call.output.text
  call.shown.forM fun line => do (← IO.getStderr).putStrLn line
  return call.exitCode.toUInt32
