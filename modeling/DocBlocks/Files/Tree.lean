import DocBlocks.Files
import DocBlocks.Files.Folder
import DocBlocks.Files.Path

/-!
A tree of files and directories, addressed by paths that start at its root. A
path may lead upwards from there, or begin with a slash at the top of all. The
directories above the root are always there, as the root itself is, and hold
only what was put into them.
-/
namespace DocBlocks

/-- A directory that is there without being put: one so many levels above the
root, which is itself at level zero, or the top. -/
inductive Base
  | above (levels : Nat)
  | top
  deriving DecidableEq

/-- Nothing is above the top. -/
def Base.up : Base → Base
  | .above levels => .above (levels + 1)
  | .top => .top

/-- Where a node is or may be: the names that lead to it from a base. -/
structure Spot where
  base : Base
  names : List String
  deriving DecidableEq

/-- What each base holds; one that is not listed is empty. -/
structure FileTree where
  folders : List (Base × Folder)

namespace FileTree

def empty : FileTree := ⟨[]⟩

def folder (tree : FileTree) (base : Base) : Folder := (tree.folders.lookup base).getD .empty

def setFolder (tree : FileTree) (base : Base) (folder : Folder) : FileTree :=
  ⟨(base, folder) :: tree.folders.filter (·.1 ≠ base)⟩

private theorem lookup_filter {base other : Base} (h : other ≠ base)
    (folders : List (Base × Folder)) :
    (folders.filter (·.1 ≠ base)).lookup other = folders.lookup other := by
  induction folders with
  | nil => rfl
  | cons first rest ih =>
    obtain ⟨key, value⟩ := first
    by_cases hk : key = base
    · subst hk
      rw [List.filter_cons_of_neg (by simp), ih, List.lookup_cons, beq_false_of_ne h]
    · rw [List.filter_cons_of_pos (by simpa using hk), List.lookup_cons, List.lookup_cons, ih]

theorem folder_setFolder (tree : FileTree) (base other : Base) (folder : Folder) :
    (tree.setFolder base folder).folder other =
      if other = base then folder else tree.folder other := by
  by_cases h : other = base
  · subst h
    simp [FileTree.folder, setFolder]
  · simp only [FileTree.folder, setFolder, List.lookup_cons, beq_false_of_ne h, lookup_filter h,
      if_neg h]

def get? (tree : FileTree) (spot : Spot) : Option Node := (tree.folder spot.base).get? spot.names

def put (tree : FileTree) (spot : Spot) (node : Node) : FileTree :=
  tree.setFolder spot.base ((tree.folder spot.base).put spot.names node)

/-- A node that is put where no directory is changes nothing else. -/
theorem get?_put (tree : FileTree) {base : Base} {front : List String} {last : String}
    (node : Node) (hfront : tree.get? ⟨base, front⟩ = some .directory)
    (hlast : tree.get? ⟨base, front ++ [last]⟩ ≠ some .directory) (other : Spot) :
    (tree.put ⟨base, front ++ [last]⟩ node).get? other =
      if other = ⟨base, front ++ [last]⟩ then some node else tree.get? other := by
  obtain ⟨otherBase, names⟩ := other
  by_cases h : otherBase = base
  · subst h
    simp only [get?, put, folder_setFolder, if_true, Spot.mk.injEq, true_and]
    exact Folder.get?_put _ node hfront hlast names
  · simp [get?, put, folder_setFolder, h]

/-- The nodes below the root, each with the names that lead to it. -/
def belowRoot (tree : FileTree) : List (List String × Node) := (tree.folder (.above 0)).nodes

/-- A directory that a path leads to, with the directories on the way to it from
a base, the last first. -/
structure Visit where
  base : Base
  trail : List (String × Folder)

namespace Visit

/-- Where a path starts: at the root, or at the top if a slash begins it. -/
def start (parts : List String) : Visit :=
  ⟨if parts.head? = some "" then .top else .above 0, []⟩

def up (visit : Visit) : Visit :=
  match visit.trail with
  | [] => ⟨visit.base.up, []⟩
  | _ :: trail => ⟨visit.base, trail⟩

def down (visit : Visit) (name : String) (inner : Folder) : Visit :=
  ⟨visit.base, (name, inner) :: visit.trail⟩

/-- The spot of a name in the directory, whether anything is there or not. -/
def spot (visit : Visit) (name : String) : Spot :=
  ⟨visit.base, ((name :: visit.trail.map (·.1)).reverse)⟩

end Visit

def maxNameBytes : Nat := 255

def maxPathBytes : Nat := 4095

/-- What a directory holds under a name. -/
def item? (tree : FileTree) (visit : Visit) (name : String) : Except PathFault (Option Item) :=
  if maxNameBytes < name.utf8ByteSize then .error .tooLong
  else
    match visit.trail with
    | [] => .ok ((tree.folder visit.base).find? name)
    | (_, inner) :: _ => .ok (inner.find? name)

/-- Steps from a directory into the part of a path. -/
def enter (tree : FileTree) (visit : Visit) (part : String) : Except PathFault Visit :=
  if part = "" ∨ part = "." then .ok visit
  else if part = ".." then .ok visit.up
  else do
    match ← tree.item? visit part with
    | none => .error .missing
    | some (.directory inner) => .ok (visit.down part inner)
    | some (.file _) => .error .notDirectory

/-- Where a path ends: in a directory that is there, or at a name in one. -/
inductive Place
  | directory
  | name (outer : Visit) (last : String)

def isName (part : String) : Bool := part != "" && part != "." && part != ".."

def place (tree : FileTree) (parts : List String) : Except PathFault Place :=
  match parts.getLast? with
  | none => .ok .directory
  | some last =>
      (parts.dropLast.foldlM tree.enter (.start parts)).map fun outer =>
        if isName last then .name outer last else .directory

/-- The parts of a path that is short enough. -/
def checkedParts (path : String) : Except PathFault (List String) :=
  if maxPathBytes < path.utf8ByteSize then .error .tooLong else .ok (Path.parts path)

/-- What is at a path, if the way there is free. -/
def found (tree : FileTree) (path : String) : Except PathFault Found := do
  match ← tree.place (← checkedParts path) with
  | .directory => .ok .directory
  | .name outer last =>
      match ← tree.item? outer last with
      | none => .ok .missing
      | some (.directory _) => .ok .directory
      | some (.file bytes) => .ok (.file bytes)

def look (tree : FileTree) (path : String) : Found :=
  if path = "" then .missing else (tree.found path).toOption.getD .missing

def makeDirectory (tree : FileTree) (path : String) : Except PathFault FileTree := do
  match ← tree.place (← checkedParts path) with
  | .directory => .error .taken
  | .name outer last =>
      match ← tree.item? outer last with
      | some _ => .error .taken
      | none => .ok (tree.put (outer.spot last) .directory)

/-- A slash at the end asks for a directory, whatever is there; the name before it
is not looked at. -/
def write (tree : FileTree) (path : String) (bytes : ByteArray) : Except PathFault FileTree := do
  let all ← checkedParts path
  let counted := (all.reverse.dropWhile (· == "")).reverse
  match ← tree.place counted with
  | .directory => .error .isDirectory
  | .name outer last =>
      if counted.length < all.length then .error .isDirectory
      else
        match ← tree.item? outer last with
        | some (.directory _) => .error .isDirectory
        | _ => .ok (tree.put (outer.spot last) (.file bytes))

/-- Keeps the tree as it was if an operation fails. -/
def attempt (operation : FileTree → Except PathFault FileTree) :
    StateM FileTree (Except PathFault Unit) := fun tree =>
  match operation tree with
  | .ok changed => (.ok (), changed)
  | .error fault => (.error fault, tree)

def files : Files (StateM FileTree) where
  look path := return (← get).look path
  makeDirectory path := attempt (·.makeDirectory path)
  write path bytes := attempt (·.write path bytes)

end FileTree
end DocBlocks
