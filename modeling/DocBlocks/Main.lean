import DocBlocks.Run

/-!
The command line: the files of the system, and the two standard streams.
-/
namespace DocBlocks

def faultOf : IO.Error → PathFault
  | .noFileOrDirectory .. => .missing
  | .alreadyExists .. => .taken
  | .inappropriateType _ code _ => if code = 21 then .isDirectory else .notDirectory
  | .invalidArgument _ code description =>
      if code = 36 then .tooLong else .other description
  | other => .other (toString other)

def systemFiles : Files IO where
  look path := do
    try
      return .file (← IO.FS.readBinFile path)
    catch error =>
      match faultOf error with
      | .isDirectory => return .directory
      | _ => return .missing
  makeDirectory path := do
    try
      IO.FS.createDir path
      return .ok ()
    catch error => return .error (faultOf error)
  write path bytes := do
    try
      IO.FS.writeBinFile path bytes
      return .ok ()
    catch error => return .error (faultOf error)

end DocBlocks

def main (words : List String) : IO UInt32 := do
  let outcome ← DocBlocks.runWords DocBlocks.systemFiles words
  IO.print outcome.output
  IO.eprint outcome.errors
  return outcome.status.toUInt32
