import ClusterBootstrap.Toml.Basic

/-!
# Building TOML tables

A document fills its tables from three sides: headers, headers of array items, and dotted keys.  What one
side has defined another may not define again, so a table under construction remembers how it came to be.
-/

namespace ClusterBootstrap.Toml

/-- An entry of a table under construction. -/
inductive Entry where
  | value (value : Toml)
  /-- A table.  It is implicit when only the path to another one has named it, and dotted when that path
  was a dotted key. -/
  | table (implicit dotted : Bool) (entries : List (String × Entry))
  /-- An array of tables, each opened by a header of its own. -/
  | tables (items : List (List (String × Entry)))

/-- The entries of a table under construction. -/
abbrev Entries := List (String × Entry)

namespace Entries

/-- Replaces the entry of a key, or adds one at the end. -/
def put (key : String) (entry : Entry) : Entries → Entries
  | [] => [(key, entry)]
  | (k, e) :: rest => if k = key then (k, entry) :: rest else (k, e) :: put key entry rest

/-- Replaces the last item of an array. -/
def putLast (items : List Entries) (last : Entries) : List Entries :=
  items.dropLast ++ [last]

/-- Sets a value behind a dotted key, whose parts before the last are `path`. -/
def setDotted (key : String) (value : Toml) : List String → Entries → Option Entries
  | [], entries =>
    if (entries.lookup key).isSome then none else some (put key (.value value) entries)
  | part :: path, entries =>
    match entries.lookup part with
    | none => (setDotted key value path []).map fun sub => put part (.table true true sub) entries
    | some (.value _) => none
    | some (.tables items) => do
      -- a dotted key may pass through an array of tables, but not end right inside one
      if path.isEmpty then none
      let last ← items.getLast?
      let sub ← setDotted key value path last
      return put part (.tables (putLast items sub)) entries
    | some (.table implicit dotted sub) => do
      -- tables with a header of their own are closed to dotted keys
      if !implicit || (path.isEmpty && !dotted) then none
      let sub ← setDotted key value path sub
      return put part (.table implicit dotted sub) entries

/-- Opens what a header names, with `opening` for the last part of its path. -/
def openPath (opening : Option Entry → Option Entry) : List String → Entries → Option Entries
  | [], _ => none
  | [key], entries => (opening (entries.lookup key)).map fun entry => put key entry entries
  | part :: path, entries =>
    match entries.lookup part with
    | none =>
      (openPath opening path []).map fun sub => put part (.table true false sub) entries
    | some (.value _) => none
    | some (.tables items) => do
      let last ← items.getLast?
      let sub ← openPath opening path last
      return put part (.tables (putLast items sub)) entries
    | some (.table implicit dotted sub) => do
      let sub ← openPath opening path sub
      return put part (.table implicit dotted sub) entries

/-- A header opens a new table, or one that only paths have named. -/
def openTable : Option Entry → Option Entry
  | none => some (.table false false [])
  | some (.table true false sub) => some (.table false false sub)
  | some _ => none

/-- A header of an array item adds one. -/
def openItem : Option Entry → Option Entry
  | none => some (.tables [[]])
  | some (.tables items) => some (.tables (items ++ [[]]))
  | some _ => none

/-- Changes the table that the last header opened. -/
def modifyAt (change : Entries → Option Entries) : List String → Entries → Option Entries
  | [], entries => change entries
  | part :: path, entries =>
    match entries.lookup part with
    | some (.table implicit dotted sub) =>
      (modifyAt change path sub).map fun sub => put part (.table implicit dotted sub) entries
    | some (.tables items) => do
      let last ← items.getLast?
      let sub ← modifyAt change path last
      return put part (.tables (putLast items sub)) entries
    | _ => none

end Entries

mutual

/-- The finished value of an entry. -/
def Entry.finish : Entry → Toml
  | .value v => v
  | .table _ _ entries => .table (finishEntries entries)
  | .tables items => .array (finishItems items)

/-- The finished entries of a table. -/
def finishEntries : List (String × Entry) → List (String × Toml)
  | [] => []
  | (key, entry) :: rest => (key, entry.finish) :: finishEntries rest

/-- The finished items of an array of tables. -/
def finishItems : List (List (String × Entry)) → List Toml
  | [] => []
  | entries :: rest => .table (finishEntries entries) :: finishItems rest

end

end ClusterBootstrap.Toml
