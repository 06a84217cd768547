import DocBlocks.Region.Literal
import DocBlocks.Text.Blank
import DocBlocks.Text.Search

/-!
Values that run over several lines. When a line of a region leaves the value
of a long-text key open, the line break belongs to the value and is written
as an escape, unless the value has not begun yet.
-/
namespace DocBlocks.Region

def longTextKeys : List (List Char) := ["\"example\":".toList, "\"longtext\":".toList]

/-- How a line break within a value is written. -/
def lineBreak : List Char := ['\\', 'n']

/-- What is written after a line, and whether a long text is open behind it. -/
structure LineEnd where
  written : List Char
  longText : Bool
  deriving DecidableEq

/-- The end of a line whose last part, outside of a long text, is `fragment`. -/
def endOutside (fragment : List Char) : LineEnd :=
  if longTextKeys.any (Text.occursIn · fragment) then
    match openTail? fragment with
    | some tail => ⟨if tail.all Text.isBlank then [] else lineBreak, true⟩
    | none => ⟨[], false⟩
  else ⟨[], false⟩

def lineEnd (longText : Bool) (line : List Char) : LineEnd :=
  if longText then
    match afterClosing? line with
    | some rest => endOutside rest
    | none => ⟨lineBreak, true⟩
  else endOutside line

end DocBlocks.Region
