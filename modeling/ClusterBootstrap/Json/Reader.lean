import ClusterBootstrap.Json.Basic
import ClusterBootstrap.Decimal.Digits
import ClusterBootstrap.Decimal.Reading
import ClusterBootstrap.Text.Hex

/-!
# Reading JSON documents

A document is read from its bytes, since its text need not be valid UTF-8.  Reading stops at the first
fault, which has a cause and a place: the line, and the number of bytes before it on that line.  At
most 127 arrays and objects may be open at once.
-/

namespace ClusterBootstrap.Json

/-! ## Faults -/

/-- Why a document is no JSON text. -/
inductive SyntaxFault where
  | endInValue
  | endInString
  | endInArray
  | endInObject
  | valueExpected
  | literalExpected
  | colonExpected
  | arrayCommaOrEndExpected
  | objectCommaOrEndExpected
  | nameExpected
  | trailingComma
  | trailingCharacters
  | invalidNumber
  | numberOutOfRange
  | invalidEscape
  | invalidCodePoint
  | controlCharacter
  | loneSurrogate
  | unfinishedSurrogatePair
  | tooDeep
  deriving DecidableEq, Repr

/-- The wording of a fault, without its place. -/
def SyntaxFault.text : SyntaxFault → String
  | .endInValue => "EOF while parsing a value"
  | .endInString => "EOF while parsing a string"
  | .endInArray => "EOF while parsing a list"
  | .endInObject => "EOF while parsing an object"
  | .valueExpected => "expected value"
  | .literalExpected => "expected ident"
  | .colonExpected => "expected `:`"
  | .arrayCommaOrEndExpected => "expected `,` or `]`"
  | .objectCommaOrEndExpected => "expected `,` or `\x7d`"
  | .nameExpected => "key must be a string"
  | .trailingComma => "trailing comma"
  | .trailingCharacters => "trailing characters"
  | .invalidNumber => "invalid number"
  | .numberOutOfRange => "number out of range"
  | .invalidEscape => "invalid escape"
  | .invalidCodePoint => "invalid unicode code point"
  | .controlCharacter => "control character (\\u0000-\\u001F) found while parsing a string"
  | .loneSurrogate => "lone leading surrogate in hex escape"
  | .unfinishedSurrogatePair => "unexpected end of hex escape"
  | .tooDeep => "recursion limit exceeded"

/-- A fault and how many bytes of the document were left after it. -/
structure Stop where
  fault : SyntaxFault
  unread : Nat
  deriving DecidableEq, Repr

/-- What was read, with the input after it. -/
abbrev Taken (α : Type) := α × List UInt8

/-- A fault found before the next byte. -/
def stopHere {α : Type} (fault : SyntaxFault) (input : List UInt8) : Except Stop α :=
  .error ⟨fault, input.length⟩

/-- A fault of the next byte, which counts as read. -/
def stopAtNext {α : Type} (fault : SyntaxFault) (input : List UInt8) : Except Stop α :=
  .error ⟨fault, input.length - 1⟩

/-! ## Bytes -/

/-- The byte of an ASCII character. -/
def byte (c : Char) : UInt8 := c.toNat.toUInt8

/-- The four white space characters between tokens. -/
def isBlankByte (b : UInt8) : Bool :=
  b = byte ' ' || b = byte '\n' || b = byte '\t' || b = byte '\r'

/-- The input from its first byte that is no white space. -/
def skipBlank (input : List UInt8) : List UInt8 :=
  input.dropWhile isBlankByte

/-- A decimal digit. -/
def isDigitByte (b : UInt8) : Bool :=
  byte '0' ≤ b && b ≤ byte '9'

/-- The value of a hexadecimal digit. -/
def hexValue? (b : UInt8) : Option Nat := Text.hexValue? (Char.ofNat b.toNat)

/-! ## Literals -/

/-- Reads the rest of a literal whose first letter is gone. -/
def readLiteral (value : Json) : List Char → List UInt8 → Except Stop (Taken Json)
  | [], input => .ok (value, input)
  | _ :: _, [] => stopHere .endInValue []
  | c :: cs, b :: rest =>
    if b = byte c then readLiteral value cs rest else stopHere .literalExpected rest

/-! ## Numbers -/

/-- Appends digits to a significand for as long as it fits an unsigned 64-bit word.  The second part
is the number of digits that were left out. -/
def appendDigits (significand : Nat) : List UInt8 → Nat × Nat
  | [] => (significand, 0)
  | d :: ds =>
    let next := 10 * significand + (d.toNat - 48)
    if next < Decimal.wordCount then appendDigits next ds else (significand, ds.length + 1)

/-- The digits of an exponent so far, with the input after them.  An exponent beyond a signed 32-bit
word ends the reading: it is `none`, and the input starts behind the digit that made it so. -/
def readExponentDigits (exponent : Nat) : List UInt8 → Option Nat × List UInt8
  | [] => (some exponent, [])
  | b :: rest =>
    if isDigitByte b then
      let next := 10 * exponent + (b.toNat - 48)
      if next < 0x80000000 then readExponentDigits next rest else (none, rest)
    else (some exponent, b :: rest)

/-- A floating-point number from its parts. -/
def finishDecimal (negative : Bool) (significand : Nat) (exponent : Int) (input : List UInt8) :
    Except Stop (Taken Json) :=
  match Decimal.ofParts? significand.toUInt64 exponent with
  | some x => .ok (.decimal (if negative then -x else x), input)
  | none => stopHere .numberOutOfRange input

/-- Reads what follows the `e` of a number. -/
def readExponent (negative : Bool) (significand : Nat) (exponent : Int) (input : List UInt8) :
    Except Stop (Taken Json) :=
  let (down, digits) : Bool × List UInt8 := match input with
    | b :: rest => if b = byte '+' then (false, rest) else if b = byte '-' then (true, rest)
        else (false, input)
    | [] => (false, [])
  match digits with
  | [] => stopHere .endInValue []
  | b :: rest =>
    if isDigitByte b then
      match readExponentDigits 0 digits with
      | (some e, rest) =>
        finishDecimal negative significand (if down then exponent - e else exponent + e) rest
      | (none, rest) =>
        -- an exponent this large leaves only zero and infinity
        if significand ≠ 0 ∧ ¬ down then stopHere .numberOutOfRange rest
        else .ok (.decimal (if negative then -0.0 else 0.0), rest.dropWhile isDigitByte)
    else stopHere .invalidNumber rest

/-- Reads the exponent part of a number, if there is one. -/
def readAfterFraction (negative : Bool) (significand : Nat) (exponent : Int) :
    List UInt8 → Except Stop (Taken Json)
  | [] => finishDecimal negative significand exponent []
  | b :: rest =>
    if b = byte 'e' || b = byte 'E' then readExponent negative significand exponent rest
    else finishDecimal negative significand exponent (b :: rest)

/-- Reads what follows the point of a number. -/
def readFraction (negative : Bool) (significand : Nat) (exponent : Int) (input : List UInt8) :
    Except Stop (Taken Json) :=
  let digits := input.takeWhile isDigitByte
  let rest := input.dropWhile isDigitByte
  if digits.isEmpty then
    if rest.isEmpty then stopHere .endInValue [] else stopAtNext .invalidNumber rest
  else
    let (significand, dropped) := appendDigits significand digits
    readAfterFraction negative significand (exponent - (digits.length - dropped : Nat)) rest

/-- A whole number: an integer if a machine word holds it.  A negative zero is none. -/
def wholeNumber (negative : Bool) (significand : Nat) : Json :=
  if ¬ negative then .integer significand
  -- negative zero and what lies below the signed words become floating-point numbers
  else if 0 < significand ∧ significand ≤ Decimal.signedCount then .integer (-significand)
  else .decimal (-significand.toUInt64.toFloat)

/-- Reads a number after its sign. -/
def readNumber (negative : Bool) (input : List UInt8) : Except Stop (Taken Json) :=
  match input with
  | [] => stopHere .endInValue []
  | b :: rest =>
    if ¬ isDigitByte b then stopHere .invalidNumber rest
    else
      -- a zero in front stands alone
      let digits := if b = byte '0' then [b] else input.takeWhile isDigitByte
      let after := if b = byte '0' then rest else input.dropWhile isDigitByte
      let (significand, dropped) := appendDigits 0 digits
      match after with
      | [] =>
        if dropped = 0 then .ok (wholeNumber negative significand, [])
        else finishDecimal negative significand dropped []
      | c :: cs =>
        if isDigitByte c then stopAtNext .invalidNumber (c :: cs)
        else if c = byte '.' then readFraction negative significand dropped cs
        else if c = byte 'e' || c = byte 'E' then readExponent negative significand dropped cs
        else if dropped = 0 then .ok (wholeNumber negative significand, c :: cs)
        else finishDecimal negative significand dropped (c :: cs)

/-! ## Strings -/

/-- Reads four hexadecimal digits. -/
def readHex : List UInt8 → Except Stop (Taken Nat)
  | a :: b :: c :: d :: rest =>
    match hexValue? a, hexValue? b, hexValue? c, hexValue? d with
    | some a, some b, some c, some d => .ok (((a * 16 + b) * 16 + c) * 16 + d, rest)
    | _, _, _, _ => stopHere .invalidEscape rest
  | _ => stopHere .endInString []

/-- Reads the second half of a surrogate pair, escape included. -/
def readLowSurrogate (high : Nat) : List UInt8 → Except Stop (Taken Char)
  | [] => stopHere .endInString []
  | b :: rest =>
    if b ≠ byte '\\' then stopHere .unfinishedSurrogatePair rest
    else match rest with
      | [] => stopHere .endInString []
      | u :: rest =>
        if u ≠ byte 'u' then stopHere .unfinishedSurrogatePair rest
        else do
          let (low, rest) ← readHex rest
          if 0xdc00 ≤ low ∧ low ≤ 0xdfff then
            return (Char.ofNat (0x10000 + (high - 0xd800) * 0x400 + (low - 0xdc00)), rest)
          else stopHere .loneSurrogate rest

/-- Reads an escape after its backslash. -/
def readEscape : List UInt8 → Except Stop (Taken Char)
  | [] => stopHere .endInString []
  | b :: rest =>
    if b = byte '"' then .ok ('"', rest)
    else if b = byte '\\' then .ok ('\\', rest)
    else if b = byte '/' then .ok ('/', rest)
    else if b = byte 'b' then .ok ('\x08', rest)
    else if b = byte 'f' then .ok ('\x0c', rest)
    else if b = byte 'n' then .ok ('\n', rest)
    else if b = byte 'r' then .ok ('\r', rest)
    else if b = byte 't' then .ok ('\t', rest)
    else if b = byte 'u' then do
      let (n, rest) ← readHex rest
      -- the second half of a surrogate pair may not come first
      if 0xdc00 ≤ n ∧ n ≤ 0xdfff then stopHere .loneSurrogate rest
      else if 0xd800 ≤ n ∧ n ≤ 0xdbff then readLowSurrogate n rest
      else return (Char.ofNat n, rest)
    else stopHere .invalidEscape rest

/-- Reads the bytes of a string up to its closing quote.  Each round reads at least one byte, so the
length of the input bounds their number. -/
def readStringBytes : Nat → List UInt8 → Except Stop (Taken (List UInt8))
  | 0, _ => stopHere .endInString []
  | _ + 1, [] => stopHere .endInString []
  | rounds + 1, b :: rest =>
    if b = byte '"' then .ok ([], rest)
    else if b = byte '\\' then do
      let (c, rest) ← readEscape rest
      let (bytes, rest) ← readStringBytes rounds rest
      return (String.utf8EncodeChar c ++ bytes, rest)
    else if b < 0x20 then stopHere .controlCharacter rest
    else do
      let (bytes, rest) ← readStringBytes rounds rest
      return (b :: bytes, rest)

/-- Reads a string after its opening quote. -/
def readString (input : List UInt8) : Except Stop (Taken String) := do
  let (bytes, rest) ← readStringBytes (input.length + 1) input
  match String.fromUTF8? ⟨bytes.toArray⟩ with
  | some s => return (s, rest)
  | none => stopHere .invalidCodePoint rest

/-! ## Arrays and objects -/

/-- The input at the next item: at once for the first one, behind a comma for the others. -/
def nextItem (first : Bool) (b : UInt8) (rest : List UInt8) : Except Stop (List UInt8) :=
  if first then .ok (b :: rest)
  else if b = byte ',' then
    match skipBlank rest with
    | [] => stopHere .endInValue []
    | c :: cs => if c = byte ']' then stopAtNext .trailingComma (c :: cs) else .ok (c :: cs)
  else stopAtNext .arrayCommaOrEndExpected (b :: rest)

/-- Reads the items of an array up to its closing bracket, each with the reader given. -/
def readItems (item : List UInt8 → Except Stop (Taken Json)) :
    Nat → Bool → List UInt8 → Except Stop (Taken (List Json))
  | 0, _, _ => stopHere .endInArray []
  | rounds + 1, first, input =>
    match skipBlank input with
    | [] => stopHere .endInArray []
    | b :: rest =>
      if b = byte ']' then .ok ([], rest)
      else do
        let start ← nextItem first b rest
        let (x, rest) ← item start
        let (xs, rest) ← readItems item rounds false rest
        return (x :: xs, rest)

/-- The input behind the opening quote of the next member's name. -/
def nextName (first : Bool) (b : UInt8) (rest : List UInt8) : Except Stop (List UInt8) :=
  if first then
    if b = byte '"' then .ok rest else stopAtNext .nameExpected (b :: rest)
  else if b = byte ',' then
    match skipBlank rest with
    | [] => stopHere .endInValue []
    | c :: cs =>
      if c = byte '"' then .ok cs
      else if c = byte '\x7d' then stopAtNext .trailingComma (c :: cs)
      else stopAtNext .nameExpected (c :: cs)
  else stopAtNext .objectCommaOrEndExpected (b :: rest)

/-- The input behind the colon after a name. -/
def skipColon (input : List UInt8) : Except Stop (List UInt8) :=
  match skipBlank input with
  | [] => stopHere .endInObject []
  | b :: rest => if b = byte ':' then .ok rest else stopAtNext .colonExpected (b :: rest)

/-- Reads the members of an object up to its closing brace, each value with the reader given. -/
def readMembers (value : List UInt8 → Except Stop (Taken Json)) :
    Nat → Bool → List UInt8 → Except Stop (Taken (List (String × Json)))
  | 0, _, _ => stopHere .endInObject []
  | rounds + 1, first, input =>
    match skipBlank input with
    | [] => stopHere .endInObject []
    | b :: rest =>
      if b = byte '\x7d' then .ok ([], rest)
      else do
        let start ← nextName first b rest
        let (name, rest) ← readString start
        let rest ← skipColon rest
        let (v, rest) ← value rest
        let (members, rest) ← readMembers value rounds false rest
        return ((name, v) :: members, rest)

/-- Reads a value inside at most the given number of further arrays and objects. -/
def readValue (depth : Nat) (input : List UInt8) : Except Stop (Taken Json) :=
  match skipBlank input with
  | [] => stopHere .endInValue []
  | b :: rest =>
    if b = byte 'n' then readLiteral .null ['u', 'l', 'l'] rest
    else if b = byte 't' then readLiteral (.bool true) ['r', 'u', 'e'] rest
    else if b = byte 'f' then readLiteral (.bool false) ['a', 'l', 's', 'e'] rest
    else if b = byte '-' then readNumber true rest
    else if isDigitByte b then readNumber false (b :: rest)
    else if b = byte '"' then (readString rest).map fun r => (.string r.1, r.2)
    else if b = byte '[' then
      match depth with
      | 0 => stopAtNext .tooDeep (b :: rest)
      | depth + 1 =>
        (readItems (readValue depth) (rest.length + 1) true rest).map fun r => (.array r.1, r.2)
    else if b = byte '\x7b' then
      match depth with
      | 0 => stopAtNext .tooDeep (b :: rest)
      | depth + 1 =>
        (readMembers (readValue depth) (rest.length + 1) true rest).map fun r =>
          (ofMembers r.1, r.2)
    else stopAtNext .valueExpected (b :: rest)

/-! ## Documents -/

/-- How many arrays and objects may be open at once. -/
def depthLimit : Nat := 127

/-- A fault of a document and its place. -/
structure SyntaxError where
  fault : SyntaxFault
  line : Nat
  column : Nat
  deriving DecidableEq, Repr

/-- The wording of a fault with its place. -/
def SyntaxError.text (e : SyntaxError) : String :=
  e.fault.text ++ " at line " ++ toString e.line ++ " column " ++ toString e.column

/-- The place of a fault: lines count from one, columns are bytes read on the line. -/
def Stop.locate (stop : Stop) (document : List UInt8) : SyntaxError :=
  let read := document.take (document.length - stop.unread)
  { fault := stop.fault
    line := read.count (byte '\n') + 1
    column := (read.reverse.takeWhile (· ≠ byte '\n')).length }

/-- Reads one value and nothing but white space after it. -/
def readDocument (document : List UInt8) : Except Stop Json := do
  let (json, rest) ← readValue depthLimit document
  match skipBlank rest with
  | [] => return json
  | b :: rest => stopAtNext .trailingCharacters (b :: rest)

/-- Reads a document from its bytes. -/
def parseBytes (document : List UInt8) : Except SyntaxError Json :=
  (readDocument document).mapError (·.locate document)

/-- The bytes of a text. -/
def bytesOf (s : String) : List UInt8 :=
  s.toUTF8.toList

/-- Reads a document from its text. -/
def parse (text : String) : Except SyntaxError Json :=
  parseBytes (bytesOf text)

end ClusterBootstrap.Json
