/-!
The text of a path. Its parts stand between slashes. An empty part leads
nowhere, and neither does a lone dot, but at the beginning a dot is kept.
-/
namespace DocBlocks.Path

/-- Splits at each slash. -/
def splitSlashes : List Char → List (List Char)
  | [] => [[]]
  | c :: rest =>
      if c = '/' then [] :: splitSlashes rest
      else
        match splitSlashes rest with
        | [] => [[c]]
        | part :: later => (c :: part) :: later

def parts (path : String) : List String := (splitSlashes path.toList).map String.ofList

/-- The path texts that end in a part that counts, each a step further. -/
def trailFrom (before : String) : List String → List String
  | [] => []
  | part :: rest =>
      let here := before ++ "/" ++ part
      if part = "" ∨ part = "." then trailFrom here rest else here :: trailFrom here rest

def trail (path : String) : List String :=
  match parts path with
  | [] => []
  | first :: rest =>
      if first = "" then trailFrom first rest else first :: trailFrom first rest

/-- The paths of the directories that a path leads through, the innermost first. -/
def outerDirectories (path : String) : List String := (trail path).dropLast.reverse

end DocBlocks.Path
