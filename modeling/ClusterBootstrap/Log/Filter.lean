import ClusterBootstrap.Decimal.Digits
import ClusterBootstrap.Log.Record
import ClusterBootstrap.Text.Alphanumeric
import ClusterBootstrap.Text.Blank
import ClusterBootstrap.Text.Hex
import ClusterBootstrap.Text.Parts

/-!
# Which records are shown

A filter is a list of directives with commas between them.  A directive sets how much detail is shown:

* `info` of everything,
* `kvcluster_client=debug` of the sources whose path begins with the target,
* `kvcluster_client[assign_role{uri=a:1}]=trace` during the spans that it describes.

Of the directives without a span the most specific one that applies decides.  During a span, each
directive that describes it may show more.
-/

namespace ClusterBootstrap.Log

/-- A field that a span must have, and its text if that matters. -/
structure FieldPattern where
  name : String
  text : Option String := none
  deriving DecidableEq, Repr

/-- One directive of a filter. -/
structure Directive where
  /-- What the path of a source begins with. -/
  target : Option String := none
  /-- The name of a span. -/
  span : Option String := none
  field : Option FieldPattern := none
  /-- How much is shown: the detail of a level, or zero for nothing. -/
  detail : Nat
  deriving DecidableEq, Repr

/-- The directives of a filter, in order. -/
structure Filter where
  directives : List Directive
  deriving DecidableEq, Repr

namespace Directive

/-! ## Reading -/

/-- The detail that a level has by its name in any case or by its number, which may have a plus sign. -/
def detail? (text : List Char) : Option Nat :=
  let digits := match text with
    | '+' :: digits => digits
    | digits => digits
  match Decimal.natural? digits with
  | some n => if n ≤ Level.trace.detail then some n else none
  | none =>
    let name := (String.ofList text).toUpper
    if name = "OFF" then some 0
    else
      ([Level.error, .warn, .info, .debug, .trace].find? fun level => level.name = name).map
        Level.detail

/-- Characters that a target may begin with: letters and digits of any script, and a few signs. -/
def beginsTarget (c : Char) : Bool :=
  Text.isAlphanumeric c || c = '-' || c = ':' || c = '_'

/-- The characters of a text from one place to another. -/
def cut (text : List Char) (start stop : Nat) : List Char := (text.take stop).drop start

/-- The place of the next character, from a place on, that ends something. -/
def placeOf (text : List Char) (start : Nat) (ends : Char → Bool) : Nat :=
  start + ((text.drop start).takeWhile fun c => !ends c).length

/-- The field that a text between braces describes: a name, and behind an equals sign the text it must
have. -/
def fieldOf? (text : List Char) : Option FieldPattern :=
  if text = [] then none
  else
    match Text.parts '=' text with
    | name :: value :: _ =>
      some { name := String.ofList name, text := some (String.ofList value) }
    | _ => some { name := String.ofList text }

/-- Reads the level behind an equals sign; none at all shows everything. -/
def withLevel? (d : Directive) (text : List Char) : Option Directive :=
  if text = [] then some d else (detail? text).map fun detail => { d with detail }

/-- Reads what follows a span: nothing, or an equals sign and a level. -/
def afterSpan? (d : Directive) (text seen : List Char) (place : Nat) : Option Directive :=
  match seen[place]? with
  | none => some d
  | some '=' => d.withLevel? (text.drop (place + 1))
  | some _ => none

/-- Reads a span from behind its opening bracket: a name, or braces with a field, or both. -/
def readSpan? (d : Directive) (text seen : List Char) (start : Nat) : Option Directive :=
  let nameEnd := placeOf seen start fun c => c = ']' || c = '\x7b'
  let name := String.ofList (cut text start nameEnd)
  match seen[nameEnd]? with
  | none => none
  | some ']' => afterSpan? { d with span := some name } text seen (nameEnd + 1)
  | some _ => do
    let fieldEnd := placeOf seen (nameEnd + 1) (· = '\x7d')
    if seen[fieldEnd]? ≠ some '\x7d' ∨ seen[fieldEnd + 1]? ≠ some ']' then none
    let field ← fieldOf? (cut text (nameEnd + 1) fieldEnd)
    let span := if name.isEmpty then none else some name
    afterSpan? { d with span, field := some field } text seen (fieldEnd + 2)

/-- Reads a directive.  Without a level it shows everything.  White space around it is passed over when
looking for its parts, but they are cut out of the text as it stands. -/
def parse? (text : List Char) : Option Directive :=
  let seen := ((text.dropWhile Text.isBlankChar).reverse.dropWhile Text.isBlankChar).reverse
  let all : Directive := { detail := Level.trace.detail }
  match seen with
  | [] => none
  | '[' :: _ => readSpan? all text seen 1
  | c :: _ =>
    if beginsTarget c then
      let stop := placeOf seen 1 fun c => c = '=' || c = '['
      let target := String.ofList (cut text 0 stop)
      match seen[stop]? with
      | none =>
        match detail? text with
        | some detail => some { detail }
        | none => some { all with target := some (String.ofList text) }
      | some '[' => readSpan? { all with target := some target } text seen (stop + 1)
      | some _ => withLevel? { all with target := some target } (text.drop (stop + 1))
    else none

/-! ## Applying -/

/-- Whether a directive is about the sources of a path. -/
def matchesTarget (d : Directive) (path : String) : Bool :=
  d.target.all fun target => target.toList.isPrefixOf path.toList

/-- Whether a directive depends on spans. -/
def needsSpan (d : Directive) : Bool := d.span.isSome || d.field.isSome

/-- Whether a directive describes spans without naming them or the text of a field; then it also
counts among those without a span. -/
def isGeneral (d : Directive) : Bool := d.span.isNone && d.field.all fun field => field.text.isNone

/-- Whether a directive is about spans of the name and with the fields of this one. -/
def describes (d : Directive) (path : String) (span : Span) : Bool :=
  d.needsSpan && d.matchesTarget path && d.span.all (· = span.name) &&
    d.field.all fun field => field.name = "uri" && span.uri.isSome

/-- Whether records may have the field of a directive: their only one is the message. -/
def allowsRecords (d : Directive) : Bool := d.field.all fun field => field.name = "message"

/-- Whether the text of the field is that of the span, if it matters. -/
def agrees (d : Directive) (span : Span) : Bool :=
  d.field.all fun field => field.text.all fun text => span.uri = some text

/-- How specific a directive is: first the length of its target, then its field. -/
def rank (d : Directive) : Nat :=
  2 * ((d.target.map fun target => target.length + 1).getD 0) + if d.field.isSome then 1 else 0

end Directive

namespace Filter

/-! ## Reading -/

/-- A filter that shows a level and all that matter more. -/
def upTo (level : Level) : Filter := ⟨[{ detail := level.detail }]⟩

/-- Reads a filter.  One without directives shows errors only. -/
def parse? (text : String) : Option Filter :=
  match ((Text.parts ',' text.toList).filter (· ≠ [])).mapM Directive.parse? with
  | some [] => some (upTo .error)
  | some directives => some ⟨directives⟩
  | none => none

/-- The filter of a program: the one that is asked for if it can be read, and else progress if the
program is to be verbose, or warnings if not. -/
def choose (asked : Option String) (verbose : Bool) : Filter :=
  (asked.bind parse?).getD (upTo (if verbose then .info else .warn))

/-! ## Applying -/

/-- Of two directives the more specific one, and of equally specific ones the later. -/
def moreSpecific (best : Option Directive) (d : Directive) : Option Directive :=
  match best with
  | some b => if b.rank ≤ d.rank then some d else some b
  | none => some d

/-- The detail that the most specific of some directives gives. -/
def decisive (directives : List Directive) : Nat :=
  ((directives.foldl moreSpecific none).map Directive.detail).getD 0

/-- The directives that count without a span, as far as they are about a path. -/
def general (filter : Filter) (path : String) : List Directive :=
  filter.directives.filter fun d => d.isGeneral && d.matchesTarget path

/-- The directives that describe a span. -/
def describing (filter : Filter) (path : String) (span : Span) : List Directive :=
  filter.directives.filter fun d => d.describes path span

/-- The greatest detail that a filter can show. -/
def limit (filter : Filter) : Nat :=
  if filter.directives.any fun d => d.field.any fun field => field.text.isSome then
    Level.trace.detail
  else filter.directives.foldl (fun most d => max most d.detail) 0

/-- Whether spans of a source are followed. -/
def follows (filter : Filter) (path : String) (span : Span) : Bool :=
  Level.info.detail ≤ filter.limit &&
    (!(filter.describing path span).isEmpty ||
      Level.info.detail ≤ decisive (filter.general path))

/-- The span of a record, if it is followed. -/
def spanOf (filter : Filter) (r : LogRecord) : Option Span :=
  r.span.filter (filter.follows Source.client.path)

/-- The detail that is shown during a span because of what describes it. -/
def detailWithin (filter : Filter) (span : Span) : Nat :=
  (((filter.describing Source.client.path span).filter (·.agrees span)).map
    Directive.detail).foldl max 0

/-- Whether a record is shown. -/
def shows (filter : Filter) (r : LogRecord) : Bool :=
  let path := r.source.path
  r.level.detail ≤ decisive ((filter.general path).filter Directive.allowsRecords) ||
    (filter.spanOf r).any fun span => r.level.detail ≤ filter.detailWithin span

end Filter

/-! ## Lines -/

/-- A character of a record's text.  Those that could steer a terminal are spelled out. -/
def shownChar (c : Char) : String :=
  match c with
  | '\x1b' => "\\x1b"
  | '\x07' => "\\x07"
  | '\x08' => "\\x08"
  | '\x0c' => "\\x0c"
  | '\x7f' => "\\x7f"
  | c =>
    if 0x80 ≤ c.toNat ∧ c.toNat ≤ 0x9f then
      "\\u\x7b" ++ Text.hexDigits c.toNat ++ "\x7d"
    else c.toString

/-- A text without characters that could steer a terminal. -/
def shownText (text : String) : String := String.join (text.toList.map shownChar)

/-- A record as it is shown: in brief, with its span, if that is followed, and its source before its text. -/
def Filter.line (filter : Filter) (r : LogRecord) : String :=
  let span := ((filter.spanOf r).map fun span => span.text ++ ": ").getD ""
  LogRecord.brief { r with text := span ++ r.source.path ++ ": " ++ shownText r.text }

/-- The lines of the records that a filter shows. -/
def Filter.lines (filter : Filter) (records : List LogRecord) : List String :=
  (records.filter filter.shows).map filter.line

end ClusterBootstrap.Log
