/-!
# TOML values

The values of a configuration file.  A date or time is kept as its normal text.
-/

namespace ClusterBootstrap

/-- A TOML value. -/
inductive Toml where
  | string (value : String)
  | integer (value : Int)
  | float (value : Float)
  | boolean (value : Bool)
  | datetime (text : String)
  | array (items : List Toml)
  | table (entries : List (String × Toml))
  deriving Inhabited

namespace Toml

/-! ## Characters -/

/-- White space within a line. -/
def isSpace (c : Char) : Bool := c = ' ' || c = '\t'

/-- The text after spaces and tabs. -/
def skipSpace (text : List Char) : List Char := text.dropWhile isSpace

/-- Characters that may stand in a comment, and unescaped in most strings: no controls but the tab. -/
def isPlain (c : Char) : Bool := c = '\t' || (0x20 ≤ c.toNat && c.toNat ≠ 0x7f)

/-- The text after a line break, if one stands at its head. -/
def lineBreak? : List Char → Option (List Char)
  | '\n' :: rest => some rest
  | '\r' :: '\n' :: rest => some rest
  | _ => none

/-- The text after a comment, if one stands at its head. -/
def skipComment : List Char → List Char
  | '#' :: rest => rest.dropWhile isPlain
  | text => text

/-- Skips white space, comments and line breaks. -/
def skipLines (text : List Char) : List Char :=
  go (text.length + 1) text
where
  go : Nat → List Char → List Char
    | 0, text => text
    | rounds + 1, text =>
      let text := skipComment (skipSpace text)
      match lineBreak? text with
      | some rest => go rounds rest
      | none => text

end Toml

end ClusterBootstrap
