import ClusterBootstrap.Net.Idna.Doubles
import ClusterBootstrap.Net.Idna.Letters
import ClusterBootstrap.Net.Idna.Refused
import ClusterBootstrap.Net.Idna.Symbols
import ClusterBootstrap.Text.CharTable

/-!
# Folding

Names of hosts that mean the same are folded into one.  Letters lose their case; symbols, ligatures and
doubles become what they stand for; the points of ideographic writing become full stops; and some characters
leave no trace.  Most other characters stand for themselves.
-/

namespace ClusterBootstrap.Net.Idna

/-- What the characters beyond ASCII become that do not stand for themselves. -/
def foldingTable : Text.CharTable :=
  Text.CharTable.ofTexts
    [earlyLetters, laterLetters, signs, squares, farLetters, ideographs, forms, upperLetters,
      upperIdeographs]

/-- What a character becomes; none for one that spoils a name. -/
def fold? (c : Char) : Option (List Char) :=
  if c.toNat < 0x80 then some [c.toLower]
  else
    match foldingTable.find? c with
    | some image => some image
    | none => if isSilent c then some [] else if isRefused c then none else some [c]

/-- Whether a character stands for itself. -/
def isFolded (c : Char) : Bool := fold? c = some [c]

end ClusterBootstrap.Net.Idna
