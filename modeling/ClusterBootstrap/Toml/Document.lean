import ClusterBootstrap.Toml.Number
import ClusterBootstrap.Toml.Section

/-!
# TOML documents

A document is a sequence of lines, each with a header, a key and its value, or nothing.  Keys and headers
may be dotted.  Arrays and inline tables may be nested to a depth of 79.
-/

namespace ClusterBootstrap.Toml

/-! ## Keys -/

/-- Characters of a key without quotes. -/
def isBareKeyChar (c : Char) : Bool :=
  c.isAlphanum || c = '_' || c = '-'

/-- Reads one part of a key. -/
def keyPart? (text : List Char) : Option (String × List Char) :=
  match text with
  | '"' :: _ | '\'' :: _ => shortString? text
  | _ =>
    let name := text.takeWhile isBareKeyChar
    if name = [] then none else some (String.ofList name, text.dropWhile isBareKeyChar)

/-- Reads a dotted key: its first part and the others. -/
def key? : Nat → List Char → Option (List String × List Char)
  | 0, _ => none
  | rounds + 1, text => do
    let (part, rest) ← keyPart? (skipSpace text)
    match skipSpace rest with
    | '.' :: rest => do
      let (parts, rest) ← key? rounds rest
      return (part :: parts, rest)
    | rest => return ([part], rest)

/-- How deep tables and arrays may be nested. -/
def depthLimit : Nat := 79

/-- Reads a dotted key of a bearable length. -/
def path? (text : List Char) : Option (List String × List Char) :=
  key? depthLimit text

/-! ## Values -/

/-- Reads the items of an array after its bracket, each with the reader given. -/
def items? (value? : List Char → Option (Toml × List Char)) :
    Nat → List Char → Option (List Toml × List Char)
  | 0, _ => none
  | rounds + 1, text =>
    match skipLines text with
    | ']' :: rest => some ([], rest)
    | text => do
      let (item, rest) ← value? text
      match skipLines rest with
      | ',' :: rest => do
        let (items, rest) ← items? value? rounds rest
        return (item :: items, rest)
      | ']' :: rest => return ([item], rest)
      | _ => none

/-- Sets a value under a key of any length. -/
def setPath (path : List String) (value : Toml) (entries : Entries) : Option Entries :=
  match path.getLast? with
  | some key => Entries.setDotted key value path.dropLast entries
  | none => none

/-- Reads the entries of an inline table, each value with the reader given. -/
def inlineEntries? (value? : List Char → Option (Toml × List Char)) :
    Nat → Entries → List Char → Option (Entries × List Char)
  | 0, _, _ => none
  | rounds + 1, entries, text => do
    let (path, rest) ← path? text
    let rest ← char? '=' rest
    let (value, rest) ← value? (skipSpace rest)
    let entries ← setPath path value entries
    match skipSpace rest with
    | ',' :: rest => inlineEntries? value? rounds entries rest
    | '\x7d' :: rest => return (entries, rest)
    | _ => none

/-- Reads an inline table after its brace. -/
def inlineTable? (value? : List Char → Option (Toml × List Char)) (text : List Char) :
    Option (Toml × List Char) :=
  match skipSpace text with
  | '\x7d' :: rest => some (.table [], rest)
  | text =>
    (inlineEntries? value? (text.length + 1) [] text).map fun (entries, rest) =>
      (.table (finishEntries entries), rest)

/-- Reads a value that holds at most the given depth of arrays and inline tables. -/
def value? (depth : Nat) (text : List Char) : Option (Toml × List Char) :=
  match text with
  | '"' :: _ | '\'' :: _ => (string? text).map fun (s, rest) => (.string s, rest)
  | 't' :: 'r' :: 'u' :: 'e' :: rest => some (.boolean true, rest)
  | 'f' :: 'a' :: 'l' :: 's' :: 'e' :: rest => some (.boolean false, rest)
  | '[' :: rest =>
    match depth with
    | 0 => none
    | depth + 1 =>
      (items? (value? depth) (rest.length + 1) rest).map fun (items, rest) => (.array items, rest)
  | '\x7b' :: rest =>
    match depth with
    | 0 => none
    | depth + 1 => inlineTable? (value? depth) rest
  | _ => datetime? text <|> number? text

/-! ## Lines -/

/-- What a line says. -/
inductive Statement where
  | header (path : List String)
  | itemHeader (path : List String)
  | setting (path : List String) (value : Toml)

/-- Reads a header after its bracket. -/
def header? (text : List Char) : Option (Statement × List Char) :=
  match text with
  | '[' :: rest => do
    let (path, rest) ← path? rest
    let rest ← char? ']' rest
    let rest ← char? ']' rest
    return (.itemHeader path, rest)
  | text => do
    let (path, rest) ← path? text
    let rest ← char? ']' rest
    return (.header path, rest)

/-- Reads a key and its value. -/
def setting? (text : List Char) : Option (Statement × List Char) := do
  let (path, rest) ← path? text
  let rest ← char? '=' rest
  let (value, rest) ← value? depthLimit (skipSpace rest)
  return (.setting path value, rest)

/-- The text after the end of a line. -/
def endOfLine? (text : List Char) : Option (List Char) :=
  match skipComment (skipSpace text) with
  | [] => some []
  | text => lineBreak? text

/-- Reads the lines of a document. -/
def statements? : Nat → List Char → Option (List Statement)
  | 0, _ => none
  | rounds + 1, text =>
    match skipLines text with
    | [] => some []
    | text => do
      let (statement, rest) ← match text with
        | '[' :: rest => header? rest
        | text => setting? text
      let rest ← endOfLine? rest
      let statements ← statements? rounds rest
      return statement :: statements

/-! ## Documents -/

/-- A document under construction, and the path of the table that the last header opened. -/
structure Construction where
  root : Entries := []
  current : List String := []

/-- Carries out a line. -/
def Construction.apply (c : Construction) : Statement → Option Construction
  | .header path => do
    return { root := ← Entries.openPath Entries.openTable path c.root, current := path }
  | .itemHeader path => do
    return { root := ← Entries.openPath Entries.openItem path c.root, current := path }
  | .setting path value => do
    return { c with root := ← Entries.modifyAt (setPath path value) c.current c.root }

/-- A text without the byte order mark at its head. -/
def withoutMark : List Char → List Char
  | '\ufeff' :: rest => rest
  | text => text

/-- Reads a document: its entries, or none when it is no TOML. -/
def parse? (text : String) : Option (List (String × Toml)) := do
  let text := withoutMark text.toList
  let statements ← statements? (text.length + 1) text
  let c ← statements.foldlM Construction.apply {}
  return finishEntries c.root

end ClusterBootstrap.Toml
