/-!
What a run asks of the files around it, and what can go wrong there.
-/
namespace DocBlocks

inductive PathFault
  | missing
  | taken
  | notDirectory
  | isDirectory
  | tooLong
  | other (description : String)
  deriving DecidableEq

def PathFault.message : PathFault → String
  | .missing => "No such file or directory (os error 2)"
  | .taken => "File exists (os error 17)"
  | .notDirectory => "Not a directory (os error 20)"
  | .isDirectory => "Is a directory (os error 21)"
  | .tooLong => "File name too long (os error 36)"
  | .other description => description

/-- What is at a path. -/
inductive Found
  | missing
  | directory
  | file (bytes : ByteArray)

structure Files (m : Type → Type) where
  look : String → m Found
  makeDirectory : String → m (Except PathFault Unit)
  write : String → ByteArray → m (Except PathFault Unit)

namespace Files

variable {m : Type → Type} [Monad m]

/-- A fault does not count where a directory is already. -/
def unlessDirectory (files : Files m) (path : String) (fault : PathFault) :
    m (Except PathFault Unit) := do
  match ← files.look path with
  | .directory => return .ok ()
  | _ => return .error fault

/-- Makes the first of the directories, of which each lies in the next. The
outer ones are made only if that fails without them. -/
def makeDirectories (files : Files m) : List String → m (Except PathFault Unit)
  | [] => return .ok ()
  | path :: outer => do
      match ← files.makeDirectory path with
      | .ok () => return .ok ()
      | .error .missing =>
          match ← files.makeDirectories outer with
          | .error fault => return .error fault
          | .ok () =>
              match ← files.makeDirectory path with
              | .ok () => return .ok ()
              | .error fault => files.unlessDirectory path fault
      | .error fault => files.unlessDirectory path fault

end Files
end DocBlocks
