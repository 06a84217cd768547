import DocBlocks.Descriptor
import DocBlocks.Files

/-!
Why a run fails. A failure has a context and, if something outside of the
program caused it, that cause.
-/
namespace DocBlocks

inductive Failure
  | sourceMissing (path : String)
  | sourceNotFile (path : String)
  | tagNotWord (tag : String)
  | sourceNotText (path : String)
  | malformed (m : Malformed)
  | directoryFault (path : String) (fault : PathFault)
  | writeFault (path : String) (fault : PathFault)
  | system (cause : String)

namespace Failure

def context : Failure → String
  | .sourceMissing path => "Source file does not exist: " ++ path
  | .sourceNotFile path => "Source path is not a file: " ++ path
  | .tagNotWord tag => "Tag must be a single non-empty word, got " ++ Text.quoted tag
  | .sourceNotText path => "Failed to read source file: " ++ path
  | .malformed m => m.message
  | .directoryFault path _ => "Failed to create directory: " ++ path
  | .writeFault path _ => "Failed to write to file: " ++ path
  | .system _ => "IO error"

def cause? : Failure → Option String
  | .sourceNotText _ => some "stream did not contain valid UTF-8"
  | .directoryFault _ fault | .writeFault _ fault => some fault.message
  | .system cause => some cause
  | .sourceMissing _ | .sourceNotFile _ | .tagNotWord _ | .malformed _ => none

def message (failure : Failure) : String :=
  match failure.cause? with
  | none => failure.context
  | some cause => failure.context ++ ": " ++ cause

/-- The text of the descriptor at fault. -/
def descriptorText? : Failure → Option String
  | .malformed m => some m.descriptor.text
  | _ => none

end Failure
end DocBlocks
