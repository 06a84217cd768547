import DocBlocks.Entry

/-!
Entries arranged for reading: the first class heads the reference, and the
functions stand in the order of their names, each name once with the entry
that came last. What is left out is kept aside, in the order of the entries.
-/
namespace DocBlocks

structure Reference where
  header : Option ClassDoc
  functions : List FunctionDoc
  deriving DecidableEq

namespace Reference

def empty : Reference := ⟨none, []⟩

def size (reference : Reference) : Nat :=
  reference.functions.length + if reference.header.isSome then 1 else 0

def isEmpty (reference : Reference) : Bool := reference.size == 0

/-- Puts a function at its place by name; one of the same name gives way. -/
def insertFunction (doc : FunctionDoc) : List FunctionDoc → List FunctionDoc
  | [] => [doc]
  | other :: rest =>
      if doc.name < other.name then doc :: other :: rest
      else if doc.name = other.name then doc :: rest
      else other :: insertFunction doc rest

theorem mem_insertFunction (doc other : FunctionDoc) (docs : List FunctionDoc)
    (h : other ∈ insertFunction doc docs) : other = doc ∨ other ∈ docs := by
  induction docs with
  | nil => simpa [insertFunction] using h
  | cons first rest ih =>
    simp only [insertFunction] at h
    split at h
    · simpa using h
    · split at h
      · simp only [List.mem_cons] at h ⊢
        exact h.imp_right .inr
      · simp only [List.mem_cons] at h ⊢
        rcases h with h | h
        · exact .inr (.inl h)
        · exact (ih h).imp_right .inr

/-- Names stay in strictly ascending order. -/
theorem pairwise_insertFunction (doc : FunctionDoc) (docs : List FunctionDoc)
    (h : docs.Pairwise (·.name < ·.name)) :
    (insertFunction doc docs).Pairwise (·.name < ·.name) := by
  induction docs with
  | nil => simp [insertFunction]
  | cons first rest ih =>
    obtain ⟨hfirst, hrest⟩ := List.pairwise_cons.mp h
    simp only [insertFunction]
    split
    · next hlt =>
      refine List.pairwise_cons.mpr ⟨fun other ho => ?_, h⟩
      rcases List.mem_cons.mp ho with rfl | ho
      · exact hlt
      · exact String.lt_trans hlt (hfirst other ho)
    · next hnot =>
      split
      · next heq => exact List.pairwise_cons.mpr ⟨fun o ho => heq ▸ hfirst o ho, hrest⟩
      · next hne =>
        refine List.pairwise_cons.mpr ⟨fun other ho => ?_, ih hrest⟩
        rcases mem_insertFunction doc other rest ho with rfl | ho
        · exact Std.lt_of_le_of_ne (String.not_lt.mp hnot) (Ne.symm hne)
        · exact hfirst other ho

end Reference

/-- An entry that has no place: a class after the first, or a function before
the last of its name. -/
inductive Dropped
  | extraClass (name : String)
  | replacedFunction (name : String)
  deriving DecidableEq

structure Arrangement where
  reference : Reference
  dropped : List Dropped
  deriving DecidableEq

namespace Arrangement

def empty : Arrangement := ⟨.empty, []⟩

def add (arrangement : Arrangement) : Entry → Arrangement
  | .ofClass doc =>
      match arrangement.reference.header with
      | none =>
          { arrangement with
            reference := { arrangement.reference with header := some doc } }
      | some _ =>
          { arrangement with dropped := arrangement.dropped ++ [.extraClass doc.name] }
  | .ofFunction doc =>
      let functions := arrangement.reference.functions
      { reference :=
          { arrangement.reference with functions := Reference.insertFunction doc functions }
        dropped :=
          if functions.any (·.name = doc.name) then
            arrangement.dropped ++ [.replacedFunction doc.name]
          else arrangement.dropped }

end Arrangement

def arrange (entries : List Entry) : Arrangement := entries.foldl .add .empty

end DocBlocks
