import ClusterBootstrap.Decimal.Reading
import ClusterBootstrap.Settings.Tree
import ClusterBootstrap.Text.Parts

/-!
# Settings in the environment

Environment variables whose names begin with `KVCLUSTER_`, in any case, set values.  In the rest of the
name two underscores stand for a step into a table.  A value is read as a boolean, an integer or a number
if it looks like one; the roles are otherwise divided at commas.
-/

namespace ClusterBootstrap.Settings.Environment

/-- What the names of all variables begin with, in lower case. -/
def namePrefix : String := "kvcluster_"

/-- The layer of these values in messages. -/
def layerName : String := "the environment"

/-- Two underscores as one point. -/
def dotted : List Char → List Char
  | '_' :: '_' :: rest => '.' :: dotted rest
  | c :: rest => c :: dotted rest
  | [] => []

/-- The name of the value that a variable sets. -/
def settingName? (varName : String) : Option String :=
  let name := (Text.lower varName).toList
  if namePrefix.toList.isPrefixOf name then
    some (String.ofList (dotted (name.drop namePrefix.length)))
  else none

/-- Reads a signed 64-bit integer, which may have a plus sign. -/
def integer? (text : String) : Option Int :=
  let signed := match text.toList with
    | '-' :: digits => (Decimal.natural? digits).map fun n => -(n : Int)
    | '+' :: digits => (Decimal.natural? digits).map Int.ofNat
    | digits => (Decimal.natural? digits).map Int.ofNat
  signed.filter Decimal.isSignedWord

/-- The value of a variable that sets the given name. -/
def value (name text : String) : Tree :=
  let scalar (s : Scalar) : Tree := .scalar (some layerName) s
  let lower := text.toLower
  if lower = "true" then scalar (.bool true)
  else if lower = "false" then scalar (.bool false)
  else
    match integer? text, Decimal.parse? text with
    | some n, _ => scalar (.integer n)
    | none, some x => scalar (.float x)
    | none, none =>
      if name = "roles" then
        .list (some layerName)
          ((Text.stringParts ',' text).map fun part => scalar (.string part))
      else scalar (.string text)

/-- The layer of an environment. -/
def layer (environment : List (String × String)) : List (String × Tree) :=
  environment.filterMap fun (varName, text) =>
    (settingName? varName).map fun name => (name, value name text)

end ClusterBootstrap.Settings.Environment
