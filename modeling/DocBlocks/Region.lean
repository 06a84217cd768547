import DocBlocks.Descriptor
import DocBlocks.Region.LongText
import DocBlocks.Region.Marker
import DocBlocks.Text.Lines

/-!
The regions of a source text. A region begins on a line with the marker and
ends on that line or a later one with the comment closer; its text is what
stands between them, joined without line ends other than those of long texts.
A region that is open when the source ends is none.
-/
namespace DocBlocks

/-- A descriptor and the last line of its region. -/
structure Region extends Descriptor where
  lastLine : Nat
  deriving DecidableEq

namespace Region

def closer : List Char := ['*', '/']

/-- Where a scan is: in ordinary text, or in a region with the text so far. -/
inductive Mode
  | outside
  | inside (opened : Nat) (text : String) (longText : Bool)

/-- The mode after a line, and the region that ends on it. -/
def Mode.step (tag : List Char) (number : Nat) (mode : Mode) (line : List Char) :
    Mode × Option Region :=
  match mode with
  | .outside =>
      match afterMarker? tag line with
      | none => (.outside, none)
      | some tail =>
          match Text.before? closer tail with
          | none => (.inside number "" false, none)
          | some text => (.outside, some ⟨⟨number, String.ofList (Text.trim text)⟩, number⟩)
  | .inside opened text longText =>
      if Text.occursIn closer line then
        (.outside, some ⟨⟨opened, text⟩, number⟩)
      else
        let ending := lineEnd longText line
        (.inside opened (text ++ String.ofList (line ++ ending.written)) ending.longText, none)

/-- The line of the region that a mode leaves open. -/
def Mode.unclosed : Mode → Option Nat
  | .outside => none
  | .inside opened _ _ => some opened

end Region

/-- The regions in the order of the source, and the line of one never closed. -/
structure Scan where
  regions : List Region
  unclosed : Option Nat
  deriving DecidableEq

namespace Scan

/-- Scans lines of which the first has a number. -/
def ofLines (tag : List Char) : Region.Mode → Nat → List (List Char) → Scan
  | mode, _, [] => ⟨[], mode.unclosed⟩
  | mode, number, line :: rest =>
      let (next, found) := mode.step tag number line
      let later := ofLines tag next (number + 1) rest
      ⟨found.toList ++ later.regions, later.unclosed⟩

end Scan

def scan (tag source : String) : Scan :=
  Scan.ofLines tag.toList .outside 1 (Text.lines source.toList)

def Scan.descriptors (scan : Scan) : List Descriptor := scan.regions.map (·.toDescriptor)

end DocBlocks
