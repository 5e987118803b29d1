import SurfaceDiff.Text.Runs

/-!
Contract: the characters that count as blank space, as of Unicode 14.

They are the ASCII blanks, the four information separators, the next-line control and the
characters with the property `White_Space`.
-/

namespace SurfaceDiff.Text

def blankCharacters : Runs where
  bounds := [
    0x9, 0xE, 0x1C, 0x21, 0x85, 0x86, 0xA0, 0xA1, 0x1680, 0x1681, 0x2000, 0x200B, 0x2028, 0x202A,
    0x202F, 0x2030, 0x205F, 0x2060, 0x3000, 0x3001
  ]

def isBlank (character : Char) : Bool :=
  blankCharacters.contains character.toNat

/-- Blank, but no line break. -/
def isBlankInLine (character : Char) : Bool :=
  isBlank character && character != '\n' && character != '\r'

end SurfaceDiff.Text
