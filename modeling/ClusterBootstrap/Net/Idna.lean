import ClusterBootstrap.Net.Idna.Direction
import ClusterBootstrap.Net.Idna.Folding
import ClusterBootstrap.Net.Idna.Joining
import ClusterBootstrap.Net.Punycode
import ClusterBootstrap.Text.Composition
import ClusterBootstrap.Text.Parts

/-!
# Names of hosts

A name is folded, composed and divided into labels at its full stops.  A label beyond ASCII is written in
Punycode behind `xn--`, and a label that comes so written is read to see whether it may stand.  A name is
refused if it holds a character that no name may hold, if a label begins with a mark, if a joiner stands
where it makes no difference, or if its labels mix directions of writing.
-/

namespace ClusterBootstrap.Net.Idna

/-! ## Characters -/

/-- Characters that no name may hold: controls, the space and the delimiters of addresses. -/
def isForbidden (c : Char) : Bool :=
  c.toNat ≤ 0x20 || c.toNat = 0x7f || "%#/:<>?@[\\]^|".toList.contains c

/-- Whether a text is ASCII. -/
def isAscii (text : List Char) : Bool := text.all (·.toNat < 0x80)

/-! ## Labels -/

/-- A label, as it is meant and as it is written. -/
structure Label where
  meant : List Char
  written : List Char
  deriving DecidableEq, Repr

namespace Label

/-- What a label in Punycode begins with. -/
def mark : List Char := "xn--".toList

/-- The greatest length of a label that is put into Punycode. -/
def encodingLimit : Nat := 1000

/-- The greatest length of Punycode that is read. -/
def decodingLimit : Nat := 2000

/-- Whether a text beyond ASCII can be a label: it does not begin with a mark, and its joiners may stand. -/
def isSound (text : List Char) : Bool :=
  !text.head?.any Text.isMark && Joining.allStand text && text.length ≤ encodingLimit

/-- Reads what follows the mark of Punycode, which is ASCII.  It must mean a text beyond ASCII that is folded
and composed. -/
def meaning? (code : List Char) : Option (List Char) := do
  if decodingLimit < code.length ∨ ¬ isAscii code then none
  let text ← Punycode.decode? code
  if isAscii text ∨ text.any isForbidden ∨ ¬ text.all isFolded ∨ Text.compose text ≠ text then none
  return text

/-- Reads a label of a folded and composed name. -/
def ofText? (text : List Char) : Option Label := do
  if mark.isPrefixOf text then
    let meant ← meaning? (text.drop mark.length)
    if isSound meant then return { meant, written := text } else none
  else if isAscii text then return { meant := text, written := text }
  else if isSound text then return { meant := text, written := mark ++ Punycode.encode text }
  else none

end Label

/-! ## Whole names -/

/-- The labels of a name; none for a name that is refused. -/
def labels? (name : String) : Option (List Label) := do
  let folded ← name.toList.mapM fold?
  let composed := Text.compose folded.flatten
  if composed.any isForbidden then none
  let labels ← (Text.parts '.' composed).mapM Label.ofText?
  let directed := labels.any fun label => label.meant.any Direction.isRightward
  if directed ∧ ¬ labels.all fun label => Direction.isUniform label.meant then none
  return labels

/-- A name in ASCII; none for a name that is refused. -/
def toAscii? (name : String) : Option String :=
  (labels? name).map fun labels =>
    ".".intercalate (labels.map fun label => String.ofList label.written)

end ClusterBootstrap.Net.Idna
