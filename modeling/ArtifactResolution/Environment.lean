import ArtifactResolution.Table
import ArtifactResolution.Text.Ranges

namespace ArtifactResolution
set_option autoImplicit false

abbrev Environment := Table String String

namespace Text

/-- The characters with the property White_Space. -/
def whiteSpaceRanges : Ranges := [
  (0x9, 0xD), (0x20, 0x20), (0x85, 0x85), (0xA0, 0xA0), (0x1680, 0x1680), (0x2000, 0x200A),
  (0x2028, 0x2029), (0x202F, 0x202F), (0x205F, 0x205F), (0x3000, 0x3000)]

def isWhiteSpace (c : Char) : Bool := whiteSpaceRanges.contains c

def trim (cs : List Char) : List Char :=
  ((cs.dropWhile isWhiteSpace).reverse.dropWhile isWhiteSpace).reverse

end Text

namespace Environment

/-- What follows a prefix, in any letter case of ASCII. -/
def suffix? (start name : List Char) : Option (List Char) :=
  if start.map Char.toLower <+: name.map Char.toLower then some (name.drop start.length) else none

/-- The path of keys that a variable stands for: its name behind the given beginning, in small
letters, at each dot a key further. No key may be empty. White space around the name and around what
follows the beginning does not count. -/
def keys? (start name : String) : Option (List String) := do
  let rest ← suffix? start.toList (Text.trim name.toList)
  let keys := ((Text.trim rest).map Char.toLower).splitOn '.'
  if keys.any List.isEmpty then none else return keys.map String.ofList

end Environment

end ArtifactResolution
