import ClusterBootstrap.Net.Host

/-!
# Addresses of requests

Reads the text of an `http` address into its normal form.  Tabs and line breaks inside the text and white
space at its end do not count, a backslash counts as a slash, credentials that can be read are dropped, the
default port is left out, and the path has no dot segments.  An address in normal form may still be one that
cannot be sent.
-/

namespace ClusterBootstrap.Net

/-- An address in normal form. -/
structure Url where
  /-- Credentials that cannot be read, with their at-sign; else nothing. -/
  credentials : String
  host : String
  /-- The port, unless it is the default one, 80. -/
  port : Option Nat
  /-- The path from its first slash, with the query behind it. -/
  path : String
  /-- What follows the number sign. -/
  fragment : Option String
  deriving DecidableEq, Repr

namespace Url

/-! ## Percent-encoding -/

/-- A byte as a percent sign and two upper-case hexadecimal digits. -/
def percentByte (b : UInt8) : List Char :=
  let digit (n : Nat) := (Nat.digitChar n).toUpper
  ['%', digit (b.toNat / 16), digit (b.toNat % 16)]

/-- Encodes the characters beyond printable ASCII and those of the given set. -/
def percentEncode (set : List Char) (text : List Char) : List Char :=
  text.flatMap fun c =>
    if 0x20 ≤ c.toNat ∧ c.toNat ≤ 0x7e ∧ c ∉ set then [c]
    else (String.utf8EncodeChar c).flatMap percentByte

/-- What is encoded in a fragment. -/
def fragmentSet : List Char := [' ', '"', '<', '>', '`']

/-- What is encoded in a path. -/
def pathSet : List Char := fragmentSet ++ ['#', '?', '\x7b', '\x7d']

/-- What is encoded in a query. -/
def querySet : List Char := [' ', '"', '#', '<', '>', '\'']

/-! ## Paths -/

/-- A slash of either kind. -/
def isSlash (c : Char) : Bool := c = '/' || c = '\\'

/-- Whether a segment stands for the directory itself. -/
def isDot (segment : String) : Bool :=
  [".", "%2e"].contains segment.toLower

/-- Whether a segment stands for the directory above. -/
def isDoubleDot (segment : String) : Bool :=
  ["..", ".%2e", "%2e.", "%2e%2e"].contains segment.toLower

/-- Whether a segment names a drive: a letter and a colon or a vertical bar. -/
def isDrive (segment : String) : Bool :=
  match segment.toList with
  | [letter, mark] => letter.isAlpha && (mark = ':' || mark = '|')
  | _ => false

/-- The segments above, the last one first; a drive has nothing above it. -/
def above : List String → List String
  | [] => []
  | segment :: rest => if isDrive segment then segment :: rest else rest

/-- Resolves dot segments; `done` holds the segments before, the last one first.  A dot segment at the
end leaves an empty segment, so that the path still ends in a slash. -/
def resolve (done : List String) : List String → List String
  | [] => done.reverse
  | [last] =>
    if isDoubleDot last then ("" :: above done).reverse
    else if isDot last then ("" :: done).reverse
    else (last :: done).reverse
  | segment :: rest =>
    if isDoubleDot segment then resolve (above done) rest
    else if isDot segment then resolve done rest
    else resolve (segment :: done) rest

/-- The normal form of a path. -/
def normalizePath (path : List Char) : String :=
  let path := if path.head?.any isSlash then path.tail else path
  let slashed := path.map fun c => if isSlash c then '/' else c
  let segments := (Text.parts '/' slashed).map fun s => String.ofList (percentEncode pathSet s)
  "/" ++ "/".intercalate (resolve [] segments)

/-! ## Credentials -/

/-- What is encoded in credentials. -/
def credentialsSet : List Char := pathSet ++ ['/', ':', ';', '=', '@', '[', '\\', ']', '^', '|']

/-- Whether encoded text stands for text. -/
def isReadable (encoded : List Char) : Bool :=
  (String.fromUTF8? ⟨(Host.percentDecode (String.ofList encoded).toUTF8.toList).toArray⟩).isSome

/-- What is left of credentials: a name, and a password behind the first colon.  They are taken out of the
address if the name can be read and there is a name, or a password that can be read. -/
def unreadCredentials (text : List Char) : String :=
  let name := percentEncode credentialsSet (text.takeWhile (· ≠ ':'))
  let password := percentEncode credentialsSet (text.dropWhile (· ≠ ':')).tail
  let shown := String.ofList (name ++ (if password = [] then [] else ':' :: password) ++ ['@'])
  if name = [] ∧ password = [] then ""
  else if isReadable name ∧ (name ≠ [] ∨ isReadable password) then ""
  else shown

/-! ## Authorities -/

/-- Divides an authority at its last at-sign: credentials, and a host with a port. -/
def splitCredentials (authority : List Char) : List Char × List Char :=
  let rest := (authority.reverse.takeWhile (· ≠ '@')).reverse
  (authority.take (authority.length - rest.length - 1), rest)

/-- Divides an authority at the first colon outside brackets. -/
def splitPort (inBrackets : Bool) : List Char → List Char × Option (List Char)
  | [] => ([], none)
  | c :: cs =>
    if c = ':' ∧ ¬ inBrackets then ([], some cs)
    else
      let (host, port) := splitPort ((inBrackets || c = '[') && c ≠ ']') cs
      (c :: host, port)

/-- Reads a port in decimal; no digits at all stand for the default one. -/
def port? (digits : List Char) : Except UrlFault (Option Nat) :=
  if digits = [] then .ok none
  else
    match (Decimal.natural? digits).filter (· ≤ 65535) with
    | some 80 => .ok none
    | some n => .ok (some n)
    | none => .error .invalidPort

/-! ## Whole addresses -/

/-- The text that counts: without tabs, line breaks and the white space at its end. -/
def significant (text : List Char) : List Char :=
  (text.reverse.dropWhile (·.toNat ≤ 0x20)).reverse.filter fun c =>
    c ≠ '\t' && c ≠ '\n' && c ≠ '\r'

/-- Reads what follows the scheme of an address. -/
def parseRest (text : List Char) : Except UrlFault Url := do
  let text := (significant text).dropWhile isSlash
  let ends (c : Char) : Bool := isSlash c || c = '?' || c = '#'
  let authority := text.takeWhile fun c => !ends c
  let rest := text.dropWhile fun c => !ends c
  -- the authority ends at the first slash, question mark or number sign
  let (credentials, hostAndPort) := splitCredentials authority
  let (host, port) := splitPort false hostAndPort
  let host ← Host.normalize host
  let port ← match port with
    | some digits => port? digits
    | none => .ok none
  let path := rest.takeWhile fun c => c ≠ '?' && c ≠ '#'
  let afterPath := rest.dropWhile fun c => c ≠ '?' && c ≠ '#'
  let beforeFragment := afterPath.takeWhile (· ≠ '#')
  let query := match beforeFragment with
    | '?' :: query => "?" ++ String.ofList (percentEncode querySet query)
    | _ => ""
  let fragment := match afterPath.dropWhile (· ≠ '#') with
    | '#' :: fragment => some (String.ofList (percentEncode fragmentSet fragment))
    | _ => none
  return {
    credentials := unreadCredentials credentials
    host, port, path := normalizePath path ++ query, fragment }

/-- Reads an address that starts with `http:`. -/
def parse (text : String) : Except UrlFault Url :=
  parseRest (text.toList.drop "http:".length)

/-- The address that is asked for, without the fragment. -/
def target (url : Url) : String :=
  "http://" ++ url.credentials ++ url.host ++ (url.port.map fun n => ":" ++ toString n).getD "" ++ url.path

/-- The whole address. -/
def text (url : Url) : String :=
  url.target ++ (url.fragment.map ("#" ++ ·)).getD ""

/-- The length that no address may exceed, in characters. -/
def lengthLimit : Nat := 65534

/-- Whether an address can be sent: it is not too long, and its host has no quotation marks, grave accents
or braces, which a name may hold but a request may not. -/
def isSendable (url : Url) : Bool :=
  url.text.length ≤ lengthLimit &&
    !url.host.toList.any ['"', '`', '\x7b', '\x7d'].contains

end Url

end ClusterBootstrap.Net
