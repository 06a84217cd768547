import DocBlocks.Text.Blank
import DocBlocks.Text.WordChar

/-!
The opening marker of a region: a comment opener, blanks, and the tag as a
whole word. The leftmost opener that is followed so is the marker.
-/
namespace DocBlocks.Region

/-- The text goes on with the word it is cut off from. -/
def continuesWord : List Char → Bool
  | [] => false
  | c :: _ => Text.isWordChar c

/-- What follows the tag in the text after a comment opener. -/
def afterTag? (tag text : List Char) : Option (List Char) :=
  (tag.isPrefixOf? (Text.trimStart text)).filter (!continuesWord ·)

/-- What follows the tag of the first marker. -/
def findMarker? (tag : List Char) : List Char → Option (List Char)
  | [] => none
  | '/' :: '*' :: rest => (afterTag? tag rest).or (findMarker? tag rest)
  | _ :: rest => findMarker? tag rest

/-- An empty tag marks nothing. -/
def afterMarker? (tag line : List Char) : Option (List Char) :=
  if tag = [] then none else findMarker? tag line

end DocBlocks.Region
