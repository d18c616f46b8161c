/-!
# Blank text

White space is the Unicode property `White_Space`: twenty-five code points, six of them ASCII.
A text is blank when it holds nothing else.
-/

namespace ClusterBootstrap.Text

/-- The Unicode property `White_Space`. -/
def isBlankChar (c : Char) : Bool :=
  let n := c.toNat
  (0x9 ≤ n && n ≤ 0xd) || n == 0x20 || n == 0x85 || n == 0xa0 || n == 0x1680 ||
    (0x2000 ≤ n && n ≤ 0x200a) || n == 0x2028 || n == 0x2029 || n == 0x202f || n == 0x205f ||
    n == 0x3000

/-- A text that holds white space only, the empty one included. -/
def isBlank (s : String) : Bool :=
  s.toList.all isBlankChar

theorem isBlank_iff {s : String} : isBlank s = true ↔ ∀ c ∈ s.toList, isBlankChar c = true := by
  simp [isBlank]

end ClusterBootstrap.Text
