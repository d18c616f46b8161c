import ClusterBootstrap.Text.Hex
import ClusterBootstrap.Text.Invisible

/-!
# Quoted text

Log lines and messages show free text between double quotes, so that its ends and its invisible
characters can be seen.  A backslash and a double quote are escaped by a backslash, five controls
have a letter of their own, and every other invisible character is written as its code point in
lower-case hexadecimal.
-/

namespace ClusterBootstrap.Text

/-- One character as it appears between the quotes. -/
def escapeChar (c : Char) : String :=
  if c = '\x00' then "\\0"
  else if c = '\t' then "\\t"
  else if c = '\r' then "\\r"
  else if c = '\n' then "\\n"
  else if c = '\\' then "\\\\"
  else if c = '"' then "\\\""
  else if isInvisible c then "\\u\x7b" ++ hexDigits c.toNat ++ "\x7d"
  else String.singleton c

/-- A text between double quotes, with what is not plainly visible escaped. -/
def quoted (s : String) : String :=
  "\"" ++ String.join (s.toList.map escapeChar) ++ "\""

/-- Quoted texts between brackets, divided by a comma and a space. -/
def quotedList (texts : List String) : String :=
  "[" ++ ", ".intercalate (texts.map quoted) ++ "]"

end ClusterBootstrap.Text
