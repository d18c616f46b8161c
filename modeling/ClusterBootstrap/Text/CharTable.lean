import ClusterBootstrap.Text.Hex
import ClusterBootstrap.Text.Parts

/-!
# Tables of characters

A table gives some characters an image, which is a text.  Tables are written as words with blanks between
them, and all numbers in them are hexadecimal.  The word `e0:` goes to the character U+00E0.  Each word
after it is about the next character: `61` and `61+300` are images of one and two characters, `61..7a`
stands for twenty-six images in a row, and `.` passes a character over.
-/

namespace ClusterBootstrap.Text

/-- The images of characters in a row; none for those that are passed over. -/
structure CharTable.Segment where
  first : Nat
  images : Array (Option (List Char))

/-- A table: its rows of characters. -/
structure CharTable where
  segments : List CharTable.Segment

namespace CharTable

/-! ## Looking up -/

/-- The image that a row of characters has for a character. -/
def Segment.image? (segment : Segment) (c : Char) : Option (List Char) :=
  if segment.first ≤ c.toNat then segment.images[c.toNat - segment.first]?.join else none

/-- The image of a character, if the table has one. -/
def find? (table : CharTable) (c : Char) : Option (List Char) :=
  table.segments.findSome? (·.image? c)

/-- A character with the given image, if the table has one: the first. -/
def source? (table : CharTable) (image : List Char) : Option Char :=
  table.segments.findSome? fun segment =>
    (segment.images.findIdx? (· = some image)).map fun i => Char.ofNat (segment.first + i)

/-! ## Reading tables -/

/-- A number in hexadecimal; what is no digit counts as zero. -/
def number (digits : List Char) : Nat :=
  digits.foldl (fun n c => n * 16 + (hexValue? c).getD 0) 0

/-- The images that a word lists. -/
def wordImages (word : List Char) : List (Option (List Char)) :=
  match parts '.' word with
  | [first, [], last] =>
    let first := number first
    (List.range (number last + 1 - first)).map fun i => some [Char.ofNat (first + i)]
  | [[], []] => [none]
  | _ => [some ((parts '+' word).map fun digits => Char.ofNat (number digits))]

/-- Adds a word to the rows read so far, the last one first. -/
def addWord (segments : List Segment) (word : List Char) : List Segment :=
  if word.getLast? = some ':' then { first := number word.dropLast, images := #[] } :: segments
  else
    match segments with
    | [] => []
    | segment :: rest =>
      { segment with images := (wordImages word).foldl Array.push segment.images } :: rest

/-- The words of a text. -/
def wordsOf (text : String) : List (List Char) :=
  (parts ' ' (text.toList.map fun c => if c = '\n' then ' ' else c)).filter (· ≠ [])

/-- The table that some texts make together. -/
def ofTexts (texts : List String) : CharTable where
  segments := ((texts.flatMap wordsOf).foldl addWord []).reverse

end CharTable

end ClusterBootstrap.Text
