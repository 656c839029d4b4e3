import DotPath.Text.Range

/-!
Blanks: the characters with the Unicode property White_Space. There are 25 of them; characters
without width, such as the zero width space and the byte order mark, are not among them.
-/

namespace DotPath.Text

def blankRanges : List Range :=
  [⟨0x9, 0xd⟩, ⟨0x20, 0x20⟩, ⟨0x85, 0x85⟩, ⟨0xa0, 0xa0⟩, ⟨0x1680, 0x1680⟩, ⟨0x2000, 0x200a⟩,
   ⟨0x2028, 0x2029⟩, ⟨0x202f, 0x202f⟩, ⟨0x205f, 0x205f⟩, ⟨0x3000, 0x3000⟩]

def isBlank (c : Char) : Bool :=
  Range.search c.toNat blankRanges

end DotPath.Text
