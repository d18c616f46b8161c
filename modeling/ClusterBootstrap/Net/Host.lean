import ClusterBootstrap.Decimal.Digits
import ClusterBootstrap.Net.Idna
import ClusterBootstrap.Text.Hex
import ClusterBootstrap.Text.Parts

/-!
# Hosts of addresses

The host of an address is a name, an IPv4 address in any of its old spellings, or an IPv6 address in
brackets.  A host is kept in its normal form.
-/

namespace ClusterBootstrap.Net

/-- Why an address cannot be used. -/
inductive UrlFault where
  | emptyHost
  | invalidDomain
  | invalidPort
  | invalidIpv4
  | invalidIpv6
  deriving DecidableEq, Repr

/-- The wording of a fault. -/
def UrlFault.text : UrlFault → String
  | .emptyHost => "empty host"
  | .invalidDomain => "invalid international domain name"
  | .invalidPort => "invalid port number"
  | .invalidIpv4 => "invalid IPv4 address"
  | .invalidIpv6 => "invalid IPv6 address"

namespace Host

/-- The value of digits in a base, where the text has no others. -/
def number? (base : Nat) (digits : List Char) : Option Nat :=
  digits.foldlM (fun n c => ((Text.hexValue? c).filter (· < base)).map (n * base + ·)) 0

/-! ## IPv4 -/

/-- Reads one part of an IPv4 address: hexadecimal behind `0x`, octal behind `0`, else decimal. -/
def ipv4Part? : List Char → Option Nat
  | [] => none
  | ['0'] => some 0
  | '0' :: 'x' :: digits => number? 16 digits
  | '0' :: 'X' :: digits => number? 16 digits
  | '0' :: digits => number? 8 digits
  | digits => number? 10 digits

/-- The parts of a host name without the empty one behind a final dot. -/
def nameParts (host : List Char) : List (List Char) :=
  let parts := Text.parts '.' host
  if 1 < parts.length ∧ parts.getLast? = some [] then parts.dropLast else parts

/-- Whether a host name ends in a number and so must be an IPv4 address. -/
def endsInNumber (host : List Char) : Bool :=
  match (nameParts host).getLast? with
  | none | some [] => false
  | some last => last.all Char.isDigit || (ipv4Part? last).isSome

/-- Reads an IPv4 address.  The last part fills all bytes that the parts before it leave. -/
def ipv4? (host : List Char) : Option Nat := do
  let numbers ← (nameParts host).mapM ipv4Part?
  let last ← numbers.getLast?
  -- all parts but the last are bytes
  let bytes := numbers.dropLast
  if bytes.length ≤ 3 ∧ last < Nat.pow 256 (4 - bytes.length) ∧ bytes.all (· < 256) then
    some (bytes.zipIdx.foldl (fun n (b, i) => n + b * Nat.pow 256 (3 - i)) last)
  else none

/-- An IPv4 address in dotted decimal. -/
def ipv4Text (address : Nat) : String :=
  ".".intercalate ([3, 2, 1, 0].map fun i => toString (address / Nat.pow 256 i % 256))

/-! ## IPv6 -/

/-- Reads a group of one to four hexadecimal digits. -/
def group? (digits : List Char) : Option Nat :=
  if 1 ≤ digits.length ∧ digits.length ≤ 4 then number? 16 digits else none

/-- Reads the dotted tail of an IPv6 address, four decimal bytes without leading zeros, as two
groups. -/
def dottedTail? (text : List Char) : Option (List Nat) :=
  match (Text.parts '.' text).mapM fun part =>
      if 1 < part.length ∧ part.head? = some '0' then none
      else (Decimal.natural? part).filter (· < 256) with
  | some [a, b, c, d] => some [a * 256 + b, c * 256 + d]
  | _ => none

/-- Reads groups divided by colons, the last of which may be a dotted tail. -/
def groups? : List (List Char) → Option (List Nat)
  | [] => some []
  | [last] => if last.contains '.' then dottedTail? last else (group? last).map ([·])
  | part :: parts => do
    let group ← group? part
    let groups ← groups? parts
    return group :: groups

/-- The parts before and after the first double colon. -/
def splitDoubleColon : List Char → Option (List Char × List Char)
  | [] => none
  | ':' :: ':' :: cs => some ([], cs)
  | c :: cs => (splitDoubleColon cs).map fun (before, after) => (c :: before, after)

/-- Reads groups from a text, which may be empty. -/
def groupsOf? (text : List Char) : Option (List Nat) :=
  if text = [] then some [] else groups? (Text.parts ':' text)

/-- Reads the eight groups of an IPv6 address.  A double colon stands for one zero group or more. -/
def ipv6? (text : List Char) : Option (List Nat) :=
  match splitDoubleColon text with
  | none => (groupsOf? text).filter fun groups => groups.length = 8
  | some (before, after) => do
    -- a dotted tail can only end the address
    if before.contains '.' then none
    let front ← groupsOf? before
    let back ← groupsOf? after
    if front.length + back.length ≤ 7 then
      return front ++ List.replicate (8 - front.length - back.length) 0 ++ back
    else none

/-- The length of the run of zeros at the head of a list. -/
def zeroRun (groups : List Nat) : Nat := (groups.takeWhile (· = 0)).length

/-- The place and length of the first longest run of zero groups. -/
def longestZeroRun (groups : List Nat) : Nat × Nat :=
  (List.range groups.length).foldl
    (fun best i =>
      let run := zeroRun (groups.drop i)
      if best.2 < run then (i, run) else best) (0, 0)

/-- Groups in hexadecimal, divided by colons. -/
def groupsText (groups : List Nat) : String :=
  ":".intercalate (groups.map fun g => Text.hexDigits g)

/-- An IPv6 address in brackets, with the longest run of at least two zero groups left out. -/
def ipv6Text (groups : List Nat) : String :=
  let (start, length) := longestZeroRun groups
  let body :=
    if length < 2 then groupsText groups
    else groupsText (groups.take start) ++ "::" ++ groupsText (groups.drop (start + length))
  "[" ++ body ++ "]"

/-! ## All hosts -/

/-- Undoes percent-encoding in a byte sequence; a percent sign without two digits stands for itself. -/
def percentDecode : List UInt8 → List UInt8
  | 0x25 :: a :: b :: rest =>
    match Text.hexValue? (Char.ofNat a.toNat), Text.hexValue? (Char.ofNat b.toNat) with
    | some x, some y => (x * 16 + y).toUInt8 :: percentDecode rest
    | _, _ => 0x25 :: percentDecode (a :: b :: rest)
  | b :: rest => b :: percentDecode rest
  | [] => []

/-- Reads a host and gives its normal form. -/
def normalize (host : List Char) : Except UrlFault String :=
  match host with
  | [] => .error .emptyHost
  | '[' :: rest =>
    if rest.getLast? = some ']' then
      match ipv6? rest.dropLast with
      | some groups => .ok (ipv6Text groups)
      | none => .error .invalidIpv6
    else .error .invalidIpv6
  | _ =>
    -- percent-encoding is undone before the name is looked at
    let bytes := percentDecode (String.ofList host).toUTF8.toList
    match (String.fromUTF8? ⟨bytes.toArray⟩).bind Idna.toAscii? with
    | none => .error .invalidDomain
    | some name =>
      if name.isEmpty then .error .emptyHost
      else if endsInNumber name.toList then
        match ipv4? name.toList with
        | some address => .ok (ipv4Text address)
        | none => .error .invalidIpv4
      else .ok name

end Host

end ClusterBootstrap.Net
