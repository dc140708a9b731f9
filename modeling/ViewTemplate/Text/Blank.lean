import ViewTemplate.Text.CodePoints
import ViewTemplate.Text.Search

/-!
Blank characters: the ones with the `White_Space` property. Text is trimmed of them.
-/

namespace ViewTemplate.Text

/-- The code points with the `White_Space` property. -/
def blankRanges : CodePointRanges := [
    (0x9, 0xD), (0x20, 0x20), (0x85, 0x85), (0xA0, 0xA0), (0x1680, 0x1680), (0x2000, 0x200A),
    (0x2028, 0x2029), (0x202F, 0x202F), (0x205F, 0x205F), (0x3000, 0x3000)]

/-- Whether the character has the `White_Space` property. -/
def isBlank (character : Char) : Bool :=
  blankRanges.holds character

def trim (text : List Char) : List Char :=
  trimBy isBlank text

end ViewTemplate.Text
