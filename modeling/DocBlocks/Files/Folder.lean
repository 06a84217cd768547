/-!
What a directory holds, down to the last file. A node in it is addressed by the
names that lead there, and the main statement says what putting one changes.
-/
namespace DocBlocks

inductive Node
  | directory
  | file (bytes : ByteArray)

/-- The items of a directory, one after the other; of two with the same name the
first counts. -/
inductive Folder
  | empty
  | file (name : String) (bytes : ByteArray) (rest : Folder)
  | directory (name : String) (inner rest : Folder)

inductive Item
  | file (bytes : ByteArray)
  | directory (inner : Folder)

def Item.node : Item → Node
  | .file bytes => .file bytes
  | .directory _ => .directory

/-- A new item; as a directory it is empty. -/
def Item.ofNode : Node → Item
  | .file bytes => .file bytes
  | .directory => .directory .empty

namespace Folder

def cons (name : String) : Item → Folder → Folder
  | .file bytes, rest => .file name bytes rest
  | .directory inner, rest => .directory name inner rest

def find? (folder : Folder) (name : String) : Option Item :=
  match folder with
  | .empty => none
  | .file other bytes rest => if name = other then some (.file bytes) else rest.find? name
  | .directory other inner rest =>
      if name = other then some (.directory inner) else rest.find? name

def set (folder : Folder) (name : String) (item : Item) : Folder :=
  match folder with
  | .empty => cons name item .empty
  | .file other bytes rest =>
      if name = other then cons name item rest else .file other bytes (rest.set name item)
  | .directory other inner rest =>
      if name = other then cons name item rest else .directory other inner (rest.set name item)

theorem find?_cons (folder : Folder) (name other : String) (item : Item) :
    (cons name item folder).find? other =
      if other = name then some item else folder.find? other := by
  cases item <;> rfl

theorem find?_set (folder : Folder) (name other : String) (item : Item) :
    (folder.set name item).find? other =
      if other = name then some item else folder.find? other := by
  induction folder with
  | empty => rw [set, find?_cons]
  | file first bytes rest ih =>
    by_cases h : name = first
    · subst h
      simp only [set, if_true, find?_cons, find?]
      split <;> rfl
    · simp only [set, if_neg h, find?, ih]
      by_cases ho : other = name
      · subst ho
        simp [h]
      · simp [ho]
  | directory first inner rest _ ih =>
    by_cases h : name = first
    · subst h
      simp only [set, if_true, find?_cons, find?]
      split <;> rfl
    · simp only [set, if_neg h, find?, ih]
      by_cases ho : other = name
      · subst ho
        simp [h]
      · simp [ho]

/-- The node that names lead to; no names lead to the directory itself. -/
def get? (folder : Folder) : List String → Option Node
  | [] => some .directory
  | name :: names =>
      match folder.find? name with
      | none => none
      | some (.file bytes) => if names = [] then some (.file bytes) else none
      | some (.directory inner) => inner.get? names

/-- Puts a node where names lead, if the directory for it is there. -/
def put (folder : Folder) (names : List String) (node : Node) : Folder :=
  match names with
  | [] => folder
  | [name] => folder.set name (.ofNode node)
  | name :: names =>
      match folder.find? name with
      | some (.directory inner) => folder.set name (.directory (inner.put names node))
      | _ => folder

/-- All nodes, each with the names that lead to it. -/
def nodes : Folder → List (List String × Node)
  | .empty => []
  | .file name bytes rest => ([name], .file bytes) :: rest.nodes
  | .directory name inner rest =>
      ([name], .directory) ::
        (inner.nodes.map fun (names, node) => (name :: names, node)) ++ rest.nodes

theorem get?_empty (names : List String) :
    empty.get? names = if names = [] then some .directory else none := by
  cases names <;> simp [get?, find?]

theorem get?_set (folder : Folder) (name first : String) (item : Item) (names : List String) :
    (folder.set name item).get? (first :: names) =
      if first = name then (cons name item empty).get? (name :: names)
      else folder.get? (first :: names) := by
  split
  · next h => simp only [get?, find?_set, find?_cons, h, if_true]
  · next h => simp only [get?, find?_set, if_neg h]

theorem get?_cons_ofNode (name : String) (node : Node) (names : List String) :
    (cons name (.ofNode node) empty).get? (name :: names) =
      if names = [] then some node else none := by
  cases node <;> simp [get?, find?_cons, Item.ofNode, get?_empty]

/-- Below a node that is no directory there is nothing. -/
theorem get?_of_not_directory {folder : Folder} {name : String}
    (h : folder.get? [name] ≠ some .directory) {names : List String} (hn : names ≠ []) :
    folder.get? (name :: names) = none := by
  simp only [get?] at h ⊢
  split <;> simp_all

theorem exists_directory {folder : Folder} {name : String} {names : List String}
    (h : folder.get? (name :: names) = some .directory) :
    ∃ inner, folder.find? name = some (.directory inner) ∧
      inner.get? names = some .directory := by
  simp only [get?] at h
  split at h
  · simp at h
  · split at h <;> simp at h
  · next inner hi => exact ⟨inner, hi, h⟩

theorem get?_of_directory {folder inner : Folder} {name : String}
    (h : folder.find? name = some (.directory inner)) (names : List String) :
    folder.get? (name :: names) = inner.get? names := by
  simp only [get?, h]

theorem put_of_directory {folder inner : Folder} {name : String}
    (h : folder.find? name = some (.directory inner)) {names : List String} (hn : names ≠ [])
    (node : Node) :
    folder.put (name :: names) node =
      folder.set name (.directory (inner.put names node)) := by
  cases names with
  | nil => exact absurd rfl hn
  | cons next names => simp only [put, h]

/-- A node that is put where no directory is changes nothing else. -/
theorem get?_put (folder : Folder) {front : List String} {last : String} (node : Node)
    (hfront : folder.get? front = some .directory)
    (hlast : folder.get? (front ++ [last]) ≠ some .directory) (other : List String) :
    (folder.put (front ++ [last]) node).get? other =
      if other = front ++ [last] then some node else folder.get? other := by
  induction front generalizing folder other with
  | nil =>
    cases other with
    | nil => simp [get?]
    | cons first names =>
      rw [List.nil_append, put, get?_set, get?_cons_ofNode]
      by_cases h : first = last
      · subst h
        by_cases hn : names = []
        · simp [hn]
        · simp [hn, get?_of_not_directory hlast hn]
      · simp [h]
  | cons name front ih =>
    obtain ⟨inner, hi, hd⟩ := exists_directory hfront
    rw [List.cons_append, get?_of_directory hi] at hlast
    rw [List.cons_append, put_of_directory hi (by simp)]
    cases other with
    | nil => simp [get?]
    | cons first names =>
      rw [get?_set]
      by_cases h : first = name
      · subst h
        rw [if_pos rfl, get?_of_directory (find?_cons _ _ _ _ ▸ if_pos rfl), ih inner hd hlast,
          get?_of_directory hi]
        simp
      · simp [h]

end Folder
end DocBlocks
