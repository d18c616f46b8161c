import ClusterBootstrap.Text.Hex
import ClusterBootstrap.Toml.Basic

/-!
# TOML strings

Strings come in four forms: between single quotes, where nothing is escaped, or double quotes, where a
backslash escapes; and each on one line, or between tripled quotes on many.  Readers give the characters
of the string and the text after its closing quotes.
-/

namespace ClusterBootstrap.Toml

/-- Reads a code point of the given number of hexadecimal digits. -/
def codePoint? (count : Nat) (text : List Char) : Option (Char × List Char) := do
  let digits := text.take count
  if digits.length < count then none
  let n ← digits.foldlM (fun n c => (Text.hexValue? c).map (16 * n + ·)) 0
  if n.isValidChar then return (Char.ofNat n, text.drop count) else none

/-- Reads an escape after its backslash. -/
def escape? : List Char → Option (Char × List Char)
  | 'b' :: rest => some ('\x08', rest)
  | 't' :: rest => some ('\t', rest)
  | 'n' :: rest => some ('\n', rest)
  | 'f' :: rest => some ('\x0c', rest)
  | 'r' :: rest => some ('\r', rest)
  | '"' :: rest => some ('"', rest)
  | '\\' :: rest => some ('\\', rest)
  | 'u' :: rest => codePoint? 4 rest
  | 'U' :: rest => codePoint? 8 rest
  | _ => none

/-- Reads a string on one line after its double quote. -/
def basicString? : Nat → List Char → Option (List Char × List Char)
  | 0, _ => none
  | _ + 1, [] => none
  | _ + 1, '"' :: rest => some ([], rest)
  | rounds + 1, '\\' :: rest => do
    let (c, rest) ← escape? rest
    let (cs, rest) ← basicString? rounds rest
    return (c :: cs, rest)
  | rounds + 1, c :: rest => do
    if ¬ isPlain c then none
    let (cs, rest) ← basicString? rounds rest
    return (c :: cs, rest)

/-- The text after white space and line breaks. -/
def skipBreaks : List Char → List Char
  | [] => []
  | '\r' :: '\n' :: rest => skipBreaks rest
  | c :: rest => if isSpace c || c = '\n' then skipBreaks rest else c :: rest

/-- The text after a line break that a backslash hides, with all white space behind it. -/
def hiddenBreak? (text : List Char) : Option (List Char) :=
  (lineBreak? (skipSpace text)).map skipBreaks

/-- The end of a string between tripled quotes.  Up to two quotes just before the closing ones belong to
the string. -/
def closing (quote : Char) : List Char → List Char × List Char
  | a :: b :: rest =>
    if a = quote ∧ b = quote then ([quote, quote], rest)
    else if a = quote then ([quote], b :: rest)
    else ([], a :: b :: rest)
  | [a] => if a = quote then ([quote], []) else ([], [a])
  | [] => ([], [])

/-- Reads a string on many lines after its three double quotes. -/
def longBasicString? : Nat → List Char → Option (List Char × List Char)
  | 0, _ => none
  | _ + 1, [] => none
  | _ + 1, '"' :: '"' :: '"' :: rest => some (closing '"' rest)
  | rounds + 1, '\\' :: rest =>
    match hiddenBreak? rest with
    | some rest => longBasicString? rounds rest
    | none => do
      let (c, rest) ← escape? rest
      let (cs, rest) ← longBasicString? rounds rest
      return (c :: cs, rest)
  | rounds + 1, c :: rest =>
    match lineBreak? (c :: rest) with
    | some rest => do
      let (cs, rest) ← longBasicString? rounds rest
      return ('\n' :: cs, rest)
    | none => do
      if ¬ isPlain c then none
      let (cs, rest) ← longBasicString? rounds rest
      return (c :: cs, rest)

/-- Reads a literal string on one line after its single quote. -/
def literalString? : List Char → Option (List Char × List Char)
  | [] => none
  | '\'' :: rest => some ([], rest)
  | c :: rest => do
    if ¬ isPlain c then none
    let (cs, rest) ← literalString? rest
    return (c :: cs, rest)

/-- Reads a literal string on many lines after its three single quotes. -/
def longLiteralString? : Nat → List Char → Option (List Char × List Char)
  | 0, _ => none
  | _ + 1, [] => none
  | _ + 1, '\'' :: '\'' :: '\'' :: rest => some (closing '\'' rest)
  | rounds + 1, c :: rest =>
    match lineBreak? (c :: rest) with
    | some rest => do
      let (cs, rest) ← longLiteralString? rounds rest
      return ('\n' :: cs, rest)
    | none => do
      if ¬ isPlain c then none
      let (cs, rest) ← longLiteralString? rounds rest
      return (c :: cs, rest)

/-- A line break right behind the opening quotes does not count. -/
def afterOpening (text : List Char) : List Char := (lineBreak? text).getD text

/-- Reads a string of any form. -/
def string? (text : List Char) : Option (String × List Char) :=
  let read := match text with
    | '"' :: '"' :: '"' :: rest => longBasicString? (rest.length + 1) (afterOpening rest)
    | '"' :: rest => basicString? (rest.length + 1) rest
    | '\'' :: '\'' :: '\'' :: rest => longLiteralString? (rest.length + 1) (afterOpening rest)
    | '\'' :: rest => literalString? rest
    | _ => none
  read.map fun (cs, rest) => (String.ofList cs, rest)

/-- Reads a string on one line, as a quoted key is one. -/
def shortString? : List Char → Option (String × List Char)
  | '"' :: rest => (basicString? (rest.length + 1) rest).map fun (cs, r) => (String.ofList cs, r)
  | '\'' :: rest => (literalString? rest).map fun (cs, r) => (String.ofList cs, r)
  | _ => none

end ClusterBootstrap.Toml
