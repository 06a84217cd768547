import DocBlocks.Reference
import Mathlib.Data.Finset.Card
import Mathlib.Data.Finset.Dedup

/-!
What becomes of entries when they are arranged. With every entry the reference or
the list of what is left out grows by one, and a name that a function has once
had stays; so nothing is lost, and every name stands in the reference once.
-/
namespace DocBlocks

def Entry.functionName? : Entry → Option String
  | .ofClass _ => none
  | .ofFunction doc => some doc.name

namespace Reference

def names (reference : Reference) : List String := reference.functions.map (·.name)

/-- Names stand in strictly ascending order. -/
def Ascending (docs : List FunctionDoc) : Prop := docs.Pairwise (·.name < ·.name)

theorem ne_of_name_lt {a b : String} (h : a < b) : a ≠ b := by
  rintro rfl
  exact String.lt_irrefl a h

theorem mem_names_insertFunction (doc : FunctionDoc) (docs : List FunctionDoc) (name : String) :
    name ∈ (insertFunction doc docs).map (·.name) ↔
      name = doc.name ∨ name ∈ docs.map (·.name) := by
  induction docs with
  | nil => simp [insertFunction]
  | cons first rest ih =>
    unfold insertFunction
    split
    · simp
    · split
      · next heq => simp [heq]
      · rw [List.map_cons, List.mem_cons, ih, List.map_cons, List.mem_cons]
        exact or_left_comm

theorem length_insertFunction {doc : FunctionDoc} {docs : List FunctionDoc}
    (h : Ascending docs) :
    (insertFunction doc docs).length + (if docs.any (·.name = doc.name) then 1 else 0) =
      docs.length + 1 := by
  induction docs with
  | nil => rfl
  | cons first rest ih =>
    obtain ⟨hfirst, hrest⟩ := List.pairwise_cons.mp h
    unfold insertFunction
    split
    · next hlt =>
      -- a name before the first is none of the names
      have hnone : (first :: rest).any (·.name = doc.name) = false := by
        rw [List.any_eq_false]
        intro other hother
        have hle : doc.name < other.name := by
          rcases List.mem_cons.mp hother with rfl | hother
          · exact hlt
          · exact String.lt_trans hlt (hfirst other hother)
        simpa using (ne_of_name_lt hle).symm
      rw [hnone]
      rfl
    · split
      · next heq =>
        simp [heq]
      · next hne =>
        have hany : (first :: rest).any (·.name = doc.name) = rest.any (·.name = doc.name) := by
          simp [Ne.symm hne]
        rw [hany, List.length_cons, List.length_cons, ← ih hrest]
        omega

end Reference

namespace Arrangement

open Reference

variable {arrangement : Arrangement}

theorem ascending_add (h : Ascending arrangement.reference.functions) (entry : Entry) :
    Ascending (arrangement.add entry).reference.functions := by
  cases entry with
  | ofClass doc =>
    unfold add
    cases arrangement.reference.header with
    | none => exact h
    | some first => exact h
  | ofFunction doc => exact pairwise_insertFunction doc _ h

/-- An entry is a new part of the reference, or something is left out for it. -/
theorem size_add (h : Ascending arrangement.reference.functions) (entry : Entry) :
    (arrangement.add entry).reference.size + (arrangement.add entry).dropped.length =
      arrangement.reference.size + arrangement.dropped.length + 1 := by
  cases entry with
  | ofClass doc =>
    cases hheader : arrangement.reference.header with
    | none =>
      simp only [add, size, hheader, Option.isSome_none, Option.isSome_some, if_true,
        Bool.false_eq_true, if_false]
      omega
    | some first =>
      simp only [add, size, hheader, List.length_append, List.length_singleton]
      omega
  | ofFunction doc =>
    have hlength := @length_insertFunction doc _ h
    have hsize : (arrangement.add (.ofFunction doc)).reference.size =
        (insertFunction doc arrangement.reference.functions).length +
          if arrangement.reference.header.isSome then 1 else 0 := rfl
    have hdropped : (arrangement.add (.ofFunction doc)).dropped =
        if arrangement.reference.functions.any (·.name = doc.name) then
          arrangement.dropped ++ [.replacedFunction doc.name]
        else arrangement.dropped := rfl
    rw [hsize, hdropped, size]
    split at hlength
    · next hany =>
      rw [if_pos hany, List.length_append, List.length_singleton]
      omega
    · next hany =>
      rw [if_neg hany]
      omega

theorem mem_names_add (entry : Entry) (name : String) :
    name ∈ (arrangement.add entry).reference.names ↔
      entry.functionName? = some name ∨ name ∈ arrangement.reference.names := by
  cases entry with
  | ofClass doc =>
    unfold add
    cases arrangement.reference.header with
    | none => simp [names, Entry.functionName?]
    | some first => simp [Entry.functionName?]
  | ofFunction doc =>
    have hname := mem_names_insertFunction doc arrangement.reference.functions name
    simp only [add, names, Entry.functionName?, Option.some.injEq, hname, eq_comm]

/-- What holds after some entries that are added to an arrangement. -/
theorem foldl_add (h : Ascending arrangement.reference.functions) (entries : List Entry) :
    Ascending (entries.foldl add arrangement).reference.functions ∧
      (entries.foldl add arrangement).reference.size +
          (entries.foldl add arrangement).dropped.length =
        arrangement.reference.size + arrangement.dropped.length + entries.length ∧
      ∀ name, name ∈ (entries.foldl add arrangement).reference.names ↔
        name ∈ entries.filterMap Entry.functionName? ∨ name ∈ arrangement.reference.names := by
  induction entries generalizing arrangement with
  | nil => exact ⟨h, rfl, by simp⟩
  | cons entry entries ih =>
    obtain ⟨hascending, hsize, hnames⟩ := ih (ascending_add h entry)
    have hstep := size_add h entry
    refine ⟨hascending, ?_, ?_⟩
    · rw [List.foldl_cons, hsize, List.length_cons]
      omega
    · intro name
      rw [List.foldl_cons, hnames, mem_names_add]
      cases hname : entry.functionName? with
      | none => simp [hname]
      | some other =>
        simp only [List.filterMap_cons, hname, Option.some.injEq, List.mem_cons]
        tauto

end Arrangement

theorem ascending_arrange (entries : List Entry) :
    Reference.Ascending (arrange entries).reference.functions :=
  (@Arrangement.foldl_add .empty List.Pairwise.nil entries).1

/-- With what is left out, a reference has as many parts as there are entries. -/
theorem size_arrange (entries : List Entry) :
    (arrange entries).reference.size + (arrange entries).dropped.length = entries.length := by
  have hsize := (@Arrangement.foldl_add .empty List.Pairwise.nil entries).2.1
  have hempty : Arrangement.empty.reference.size + Arrangement.empty.dropped.length = 0 := rfl
  rw [hempty, Nat.zero_add] at hsize
  exact hsize

theorem mem_names_arrange (entries : List Entry) (name : String) :
    name ∈ (arrange entries).reference.names ↔ name ∈ entries.filterMap Entry.functionName? := by
  have hnames := (@Arrangement.foldl_add .empty List.Pairwise.nil entries).2.2 name
  simpa [arrange, Arrangement.empty, Reference.empty, Reference.names] using hnames

theorem nodup_names {docs : List FunctionDoc} (h : Reference.Ascending docs) :
    (docs.map (·.name)).Nodup := by
  rw [List.nodup_iff_pairwise_ne, List.pairwise_map]
  exact List.Pairwise.imp Reference.ne_of_name_lt h

/-- There are as many functions in an arranged reference as names of functions. -/
theorem length_functions_arrange (entries : List Entry) :
    (arrange entries).reference.functions.length =
      (entries.filterMap Entry.functionName?).toFinset.card := by
  have hnodup : (arrange entries).reference.names.Nodup := nodup_names (ascending_arrange entries)
  have hsame : (arrange entries).reference.names.toFinset =
      (entries.filterMap Entry.functionName?).toFinset := by
    ext name
    rw [List.mem_toFinset, List.mem_toFinset]
    exact mem_names_arrange entries name
  rw [← hsame, List.toFinset_card_of_nodup hnodup]
  exact (List.length_map _).symm

end DocBlocks
