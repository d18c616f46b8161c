import ClusterBootstrap.Text.Lower
import ClusterBootstrap.Toml.Document

/-!
# Layered values

Settings come in layers: defaults, a file and the environment.  The layers are laid over each other in
one tree of values.  Every value knows the layer it came from, as far as that can be named.  The case of
names does not count, so all names are kept in lower case; a table is merged into what is there already, and
anything else replaces it.
-/

namespace ClusterBootstrap.Settings

/-- A value that holds no others. -/
inductive Scalar where
  | empty
  | bool (value : Bool)
  | integer (value : Int)
  | float (value : Float)
  | string (value : String)

/-- A value, and the name of the layer it came from. -/
inductive Tree where
  | scalar (origin : Option String) (value : Scalar)
  | list (origin : Option String) (items : List Tree)
  | table (origin : Option String) (entries : List (String × Tree))
  deriving Inhabited

namespace Tree

/-- The layer a value came from. -/
def origin : Tree → Option String
  | scalar origin _ => origin
  | list origin _ => origin
  | table origin _ => origin

/-- A table of no layer with nothing in it. -/
def fresh : Tree := table none []

/-- A value that stands for nothing. -/
def nothing : Tree := scalar none .empty

/-- Replaces the entry of a name, or adds one at the end. -/
def put (name : String) (value : Tree) : List (String × Tree) → List (String × Tree)
  | [] => [(name, value)]
  | (n, v) :: rest => if n = name then (n, value) :: rest else (n, v) :: put name value rest

/-- The layer and entries of a table; anything else gives way to a fresh one. -/
def asTable : Tree → Option String × List (String × Tree)
  | table origin entries => (origin, entries)
  | _ => (none, [])

/-- The layer and items of a list; anything else gives way to an empty one. -/
def asList : Tree → Option String × List Tree
  | list origin items => (origin, items)
  | _ => (none, [])

mutual

/-- Sets a named value in a tree. -/
def setName (name : String) (value : Tree) (root : Tree) : Tree :=
  let (origin, entries) := root.asTable
  let key := Text.lower name
  match value with
  | table _ incoming =>
    -- a table is merged into what is there; anything else replaces it
    table origin (put key (merge incoming ((entries.lookup key).getD fresh)) entries)
  | scalar o s => table origin (put key (scalar o s) entries)
  | list o items => table origin (put key (list o items) entries)

/-- Sets the entries of a table in a tree, one after the other. -/
def merge : List (String × Tree) → Tree → Tree
  | [], root => root
  | (name, value) :: rest, root => merge rest (setName name value root)

end

/-! ## Paths -/

/-- A step from a value to one inside it. -/
inductive Step where
  | child (name : String)
  | item (index : Int)
  deriving DecidableEq, Repr

/-- The place of an item; negative indices count from the end. -/
def place (index : Int) (length : Nat) : Nat :=
  if 0 ≤ index then index.toNat else (length + index).toNat

/-- Items with the one at a place changed; places before it that are not there yet hold nothing. -/
def changeItem (index : Nat) (change : Tree → Tree) (items : List Tree) : List Tree :=
  let items := items ++ List.replicate (index + 1 - items.length) nothing
  items.modify index change

/-- Sets a value at the end of a path, making tables and lists on the way. -/
def setSteps (value : Tree) : List Step → Tree → Tree
  | [], _ => value
  | [.child name], root => setName name value root
  | .child name :: steps, root =>
    let (origin, entries) := root.asTable
    table origin
      (put name (setSteps value steps ((entries.lookup name).getD nothing)) entries)
  | .item index :: steps, root =>
    let (origin, items) := root.asList
    list origin (changeItem (place index items.length) (setSteps value steps) items)

/-- Characters of a name in a path. -/
def isNameChar (c : Char) : Bool :=
  c.isAlphanum || c = ' ' || c = '_' || c = '-'

/-- Reads an index in brackets after the opening one. -/
def index? (text : List Char) : Option (Int × List Char) := do
  let isBlank (c : Char) : Bool := c = ' ' || c = '\t'
  let text := text.dropWhile isBlank
  let (negative, text) := match text with
    | '-' :: rest => (true, rest)
    | rest => (false, rest)
  let (ds, rest) := Decimal.spanDigits text
  let n ← Decimal.natural? ds
  if Decimal.signedCount ≤ n then none
  match rest.dropWhile isBlank with
  | ']' :: rest => return (if negative then -(n : Int) else n, rest)
  | _ => none

/-- Reads the steps after the first name of a path. -/
def steps? : Nat → List Char → Option (List Step)
  | 0, _ => none
  | _ + 1, [] => some []
  | rounds + 1, '.' :: rest =>
    match rest.takeWhile isNameChar with
    | [] => none
    | name => (steps? rounds (rest.dropWhile isNameChar)).map (.child (String.ofList name) :: ·)
  | rounds + 1, '[' :: rest => do
    let (index, rest) ← index? rest
    let steps ← steps? rounds rest
    return .item index :: steps
  | _ + 1, _ => none

/-- Reads a path: a name, and steps behind points and in brackets. -/
def path? (text : List Char) : Option (List Step) :=
  match text.takeWhile isNameChar with
  | [] => none
  | name =>
    (steps? (text.length + 1) (text.dropWhile isNameChar)).map (.child (String.ofList name) :: ·)

/-- Sets a value of a layer; its name is a path if it can be read as one. -/
def set (name : String) (value : Tree) (root : Tree) : Tree :=
  match path? (Text.lower name).toList with
  | some steps => setSteps value steps root
  | none => setName name value root

/-- Lays the named values of a layer over a tree. -/
def overlay (layer : List (String × Tree)) (root : Tree) : Tree :=
  layer.foldl (fun root entry => set entry.1 entry.2 root) root

/-! ## Files -/

mutual

/-- A value of a file; a date or time counts as its text. -/
def ofToml (file : String) : Toml → Tree
  | .string s => scalar (some file) (.string s)
  | .integer n => scalar (some file) (.integer n)
  | .float x => scalar (some file) (.float x)
  | .boolean b => scalar (some file) (.bool b)
  | .datetime text => scalar (some file) (.string text)
  | .array items => list (some file) (ofItems file items)
  | .table entries => table (some file) (ofEntries file entries)

/-- The values of an array in a file. -/
def ofItems (file : String) : List Toml → List Tree
  | [] => []
  | item :: items => ofToml file item :: ofItems file items

/-- The entries of a table in a file. -/
def ofEntries (file : String) : List (String × Toml) → List (String × Tree)
  | [] => []
  | (name, value) :: rest => (name, ofToml file value) :: ofEntries file rest

end

end Tree

end ClusterBootstrap.Settings
