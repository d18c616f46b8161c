import ClusterBootstrap.Json.Basic
import ClusterBootstrap.Decimal.Layout

/-!
# JSON texts

One printer serves both forms of a document.  They differ only in the white space of their `Spacing`:
the compact form has none, the indented form puts every item on a line of its own.
-/

namespace ClusterBootstrap.Json

/-! ## Strings -/

/-- A digit of lower-case hexadecimal. -/
def hexDigit (n : Nat) : Char :=
  Nat.digitChar (n % 16)

/-- One character inside a string.  Quote, backslash and the controls are escaped, five of the
controls by a letter; everything else stands for itself. -/
def escapeChar (c : Char) : List Char :=
  if c = '"' then ['\\', '"']
  else if c = '\\' then ['\\', '\\']
  else if c = '\n' then ['\\', 'n']
  else if c = '\r' then ['\\', 'r']
  else if c = '\t' then ['\\', 't']
  else if c = '\x08' then ['\\', 'b']
  else if c = '\x0c' then ['\\', 'f']
  else if c.toNat < 0x20 then ['\\', 'u', '0', '0', hexDigit (c.toNat / 16), hexDigit c.toNat]
  else [c]

/-- A string between quotes. -/
def quote (s : String) : String :=
  "\"" ++ String.ofList (s.toList.flatMap escapeChar) ++ "\""

/-! ## Values -/

/-- The white space of a document. -/
structure Spacing where
  /-- Stands before an item, a member or the closing bracket at the given depth. -/
  lineBreak : Nat → String
  /-- Stands between a name and its value. -/
  colon : String

/-- No white space at all. -/
def Spacing.compact : Spacing := ⟨fun _ => "", ":"⟩

/-- Two spaces for each level of depth. -/
def Spacing.indented : Spacing :=
  ⟨fun depth => "\n" ++ String.ofList (List.replicate (2 * depth) ' '), ": "⟩

mutual

/-- The text of a value that stands at the given depth. -/
def render (spacing : Spacing) (depth : Nat) : Json → String
  | .null => "null"
  | .bool true => "true"
  | .bool false => "false"
  | .integer n => toString n
  | .decimal x => Decimal.jsonText x
  | .string s => quote s
  | .array [] => "[]"
  | .array (item :: items) =>
    "[" ++ spacing.lineBreak (depth + 1) ++ render spacing (depth + 1) item ++
      renderItems spacing (depth + 1) items ++ spacing.lineBreak depth ++ "]"
  | .object [] => "\x7b\x7d"
  | .object ((name, value) :: members) =>
    "\x7b" ++ spacing.lineBreak (depth + 1) ++ quote name ++ spacing.colon ++
      render spacing (depth + 1) value ++ renderMembers spacing (depth + 1) members ++
      spacing.lineBreak depth ++ "\x7d"

/-- The items after the first, each behind its comma. -/
def renderItems (spacing : Spacing) (depth : Nat) : List Json → String
  | [] => ""
  | item :: items =>
    "," ++ spacing.lineBreak depth ++ render spacing depth item ++ renderItems spacing depth items

/-- The members after the first, each behind its comma. -/
def renderMembers (spacing : Spacing) (depth : Nat) : List (String × Json) → String
  | [] => ""
  | (name, value) :: members =>
    "," ++ spacing.lineBreak depth ++ quote name ++ spacing.colon ++
      render spacing depth value ++ renderMembers spacing depth members

end

/-- The text without white space. -/
def compact (json : Json) : String :=
  render .compact 0 json

/-- The text with one item or member on each line. -/
def pretty (json : Json) : String :=
  render .indented 0 json

end ClusterBootstrap.Json
