import SurfaceDiff.Text.Undecodable

/-!
Contract: code pages, in which each byte is a character.

Owns: the type of a page, its reading, and the page of names in archives that do not announce UTF-8.
Does not own: the other pages; they are in the table of pages.
-/

namespace SurfaceDiff.Text

/-- A page by the characters of its last bytes; each byte in front of them is the character of its
number. -/
structure CodePage where
  lastCharacters : Array Char

namespace CodePage

def ofText (lastCharacters : String) : CodePage := ⟨lastCharacters.toList.toArray⟩

/-- Stands in a page for a byte that is no character. -/
def unassigned : Char := '\uFFFE'

def character (page : CodePage) (byte : UInt8) : Char :=
  let start := 256 - page.lastCharacters.size
  if byte.toNat < start then Char.ofNat byte.toNat
  else page.lastCharacters.getD (byte.toNat - start) unassigned

def decode (page : CodePage) (bytes : List UInt8) : Except Undecodable String :=
  match Undecodable.find? "charmap" "character maps to <undefined>"
      (fun byte => page.character byte ≠ unassigned) bytes with
  | some cause => .error cause
  | none => .ok (String.ofList (bytes.map page.character))

def page437Text : String :=
  "ÇüéâäàåçêëèïîìÄÅÉæÆôöòûùÿÖÜ¢£¥₧ƒáíóúñÑªº¿⌐¬½¼¡\xab\xbb░▒▓│┤╡╢╖╕╣║╗╝╜╛┐└┴┬├─┼╞╟╚╔╩╦╠═╬╧╨╤╥╙" ++
    "╘╒╓╫╪┘┌█▄▌▐▀αßΓπΣσµτΦΘΩδ∞φε∩≡±≥≤⌠⌡÷≈°∙·√ⁿ²■\xa0"

/-- Code page 437, in which every byte is a character. -/
def page437 : CodePage := .ofText page437Text

end CodePage

end SurfaceDiff.Text
