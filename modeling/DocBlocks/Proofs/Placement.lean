import DocBlocks.Proofs.Accounting
import DocBlocks.Proofs.ByteOrder
import Mathlib.Data.List.Induction
import Mathlib.Data.List.ReduceOption

/-!
Where each entry goes when entries are arranged: which one becomes the header, which
function stands for its name, and which are left out. Every one of these is told by
the list alone, and one more entry at its end changes the answer by one step.
-/
namespace DocBlocks

/-- What the log says of an entry that is left out. -/
def Dropped.notice : Dropped → String
  | .extraClass name => "Ignoring additional class descriptor '" ++ name ++ "'"
  | .replacedFunction name =>
      "Duplicate function descriptor '" ++ name ++ "'; keeping the last one"

namespace Entry

def classDoc? : Entry → Option ClassDoc
  | .ofClass doc => some doc
  | .ofFunction _ => none

/-- What is left out for the sake of an entry when others stand before it. -/
def leftOut? (earlier : List Entry) : Entry → Option Dropped
  | .ofClass doc =>
      if (earlier.findSome? classDoc?).isSome then some (.extraClass doc.name) else none
  | .ofFunction doc =>
      if doc.name ∈ earlier.filterMap functionName? then some (.replacedFunction doc.name)
      else none

/-- What is left out for the sake of each of some entries, in their order. -/
def leftOut (entries : List Entry) : List Dropped :=
  (entries.mapIdx fun i entry => entry.leftOut? (entries.take i)).reduceOption

/-- The function is the last one of its name among some entries. -/
def LastOfName (entries : List Entry) (doc : FunctionDoc) : Prop :=
  ∃ front back, entries = front ++ .ofFunction doc :: back ∧
    doc.name ∉ back.filterMap functionName?

theorem leftOut_concat (entries : List Entry) (entry : Entry) :
    leftOut (entries ++ [entry]) = leftOut entries ++ (entry.leftOut? entries).toList := by
  have hfront : (entries.mapIdx fun i e => e.leftOut? ((entries ++ [entry]).take i)) =
      entries.mapIdx fun i e => e.leftOut? (entries.take i) := by
    apply List.ext_getElem
    · simp only [List.length_mapIdx]
    · intro i hi _
      rw [List.length_mapIdx] at hi
      rw [List.getElem_mapIdx, List.getElem_mapIdx,
        List.take_append_of_le_length (Nat.le_of_lt hi)]
  have hlast : (entries ++ [entry]).take entries.length = entries :=
    List.take_left' rfl
  rw [leftOut, List.mapIdx_concat, hfront, hlast, ← List.concat_eq_append,
    List.reduceOption_concat]
  rfl

/-- One more entry is the last of its name, or makes no difference to the name. -/
theorem lastOfName_concat_iff {entries : List Entry} {entry : Entry} {doc : FunctionDoc} :
    LastOfName (entries ++ [entry]) doc ↔
      entry = .ofFunction doc ∨ entry.functionName? ≠ some doc.name ∧ LastOfName entries doc := by
  constructor
  · rintro ⟨front, back, hsplit, hback⟩
    rcases List.eq_nil_or_concat' back with rfl | ⟨back, last, rfl⟩
    · obtain ⟨-, hlast⟩ := List.append_inj' hsplit rfl
      exact Or.inl (List.singleton_inj.mp hlast)
    · rw [← List.cons_append, ← List.append_assoc] at hsplit
      obtain ⟨hentries, hlast⟩ := List.append_inj' hsplit rfl
      obtain rfl := List.singleton_inj.mp hlast
      rw [List.filterMap_append, List.mem_append, not_or] at hback
      refine Or.inr ⟨?_, front, back, hentries, hback.1⟩
      intro hname
      exact hback.2 (List.mem_filterMap.mpr ⟨entry, List.mem_singleton_self _, hname⟩)
  · rintro (rfl | ⟨hname, front, back, rfl, hback⟩)
    · exact ⟨entries, [], rfl, List.not_mem_nil⟩
    · refine ⟨front, back ++ [entry], by simp, ?_⟩
      rw [List.filterMap_append, List.mem_append, not_or]
      refine ⟨hback, ?_⟩
      intro hmem
      obtain ⟨other, hother, hsome⟩ := List.mem_filterMap.mp hmem
      obtain rfl := List.mem_singleton.mp hother
      exact hname hsome

end Entry

namespace Reference

/-- An inserted function takes the place of the one with its name, and of no other. -/
theorem mem_insertFunction_iff {doc other : FunctionDoc} {docs : List FunctionDoc}
    (h : Ascending docs) :
    other ∈ insertFunction doc docs ↔ other = doc ∨ doc.name ≠ other.name ∧ other ∈ docs := by
  induction docs with
  | nil => simp [insertFunction]
  | cons first rest ih =>
    obtain ⟨hfirst, hrest⟩ := List.pairwise_cons.mp h
    unfold insertFunction
    split
    · next hlt =>
      -- the names behind are greater than the inserted one
      have hname : other ∈ first :: rest → doc.name ≠ other.name := by
        intro hmem
        rcases List.mem_cons.mp hmem with rfl | hmem
        · exact ne_of_name_lt hlt
        · exact ne_of_name_lt (String.lt_trans hlt (hfirst other hmem))
      rw [List.mem_cons]
      tauto
    · split
      · next heq =>
        have hname : other ∈ rest → doc.name ≠ other.name := by
          intro hmem
          rw [heq]
          exact ne_of_name_lt (hfirst other hmem)
        have hgone : other = first → doc.name = other.name := by
          rintro rfl
          exact heq
        rw [List.mem_cons, List.mem_cons]
        tauto
      · next hne =>
        have hkept : other = first → doc.name ≠ other.name := by
          rintro rfl
          exact hne
        rw [List.mem_cons, ih hrest, List.mem_cons]
        tauto

end Reference

namespace Arrangement

variable {arrangement : Arrangement}

theorem header_add (arrangement : Arrangement) (entry : Entry) :
    (arrangement.add entry).reference.header =
      arrangement.reference.header.or entry.classDoc? := by
  cases entry with
  | ofClass doc =>
    unfold add
    cases h : arrangement.reference.header with
    | none => rfl
    | some first => exact h
  | ofFunction doc => exact (Option.or_none).symm

theorem mem_functions_add (h : Reference.Ascending arrangement.reference.functions)
    (entry : Entry) (doc : FunctionDoc) :
    doc ∈ (arrangement.add entry).reference.functions ↔
      entry = .ofFunction doc ∨
        entry.functionName? ≠ some doc.name ∧ doc ∈ arrangement.reference.functions := by
  cases entry with
  | ofClass other =>
    have hsame : (arrangement.add (.ofClass other)).reference.functions =
        arrangement.reference.functions := by
      unfold add
      cases arrangement.reference.header with
      | none => rfl
      | some first => rfl
    rw [hsame]
    simp [Entry.functionName?]
  | ofFunction other =>
    have hsame : Entry.ofFunction other = .ofFunction doc ↔ doc = other := by
      rw [Entry.ofFunction.injEq, eq_comm]
    have hname : (Entry.ofFunction other).functionName? = some doc.name ↔
        other.name = doc.name := Option.some_inj
    rw [hsame, ne_eq, hname]
    exact Reference.mem_insertFunction_iff h

end Arrangement

theorem arrange_concat (entries : List Entry) (entry : Entry) :
    arrange (entries ++ [entry]) = (arrange entries).add entry := by
  simp only [arrange, List.foldl_append, List.foldl_cons, List.foldl_nil]

theorem header_arrange (entries : List Entry) :
    (arrange entries).reference.header = entries.findSome? Entry.classDoc? := by
  induction entries using List.reverseRecOn with
  | nil => rfl
  | append_singleton entries entry ih =>
    rw [arrange_concat, Arrangement.header_add, ih, List.findSome?_append]
    simp

theorem mem_functions_arrange_iff (entries : List Entry) (doc : FunctionDoc) :
    doc ∈ (arrange entries).reference.functions ↔ Entry.LastOfName entries doc := by
  induction entries using List.reverseRecOn with
  | nil => simp [arrange, Arrangement.empty, Reference.empty, Entry.LastOfName]
  | append_singleton entries entry ih =>
    rw [arrange_concat, Arrangement.mem_functions_add (ascending_arrange entries), ih,
      Entry.lastOfName_concat_iff]

theorem dropped_arrange (entries : List Entry) :
    (arrange entries).dropped = Entry.leftOut entries := by
  induction entries using List.reverseRecOn with
  | nil => rfl
  | append_singleton entries entry ih =>
    rw [arrange_concat, Entry.leftOut_concat, ← ih]
    cases entry with
    | ofClass doc =>
      rw [Entry.leftOut?, ← header_arrange]
      cases h : (arrange entries).reference.header with
      | none => simp [Arrangement.add, h]
      | some first => simp [Arrangement.add, h]
    | ofFunction doc =>
      have hname : (arrange entries).reference.functions.any (·.name = doc.name) = true ↔
          doc.name ∈ entries.filterMap Entry.functionName? := by
        rw [← mem_names_arrange, Reference.names, List.mem_map]
        simp
      simp only [Entry.leftOut?, ← hname, Arrangement.add]
      split
      · rfl
      · exact (List.append_nil _).symm

/-- Arranged entries have the first class as their header and for each name of a function
the last one with it, in the order of the names' bytes. The warnings, in the order of the
entries, are of the classes after the first and of the functions whose name was there
before, and each gives the name; with these, nothing is lost. -/
theorem arrange_places (entries : List Entry) :
    (arrange entries).reference.header = entries.findSome? Entry.classDoc? ∧
      ((arrange entries).reference.functions.map (Text.bytes ·.name)).Pairwise (· < ·) ∧
      ((arrange entries).reference.functions.map (·.name)).Nodup ∧
      (∀ doc, doc ∈ (arrange entries).reference.functions ↔ Entry.LastOfName entries doc) ∧
      (arrange entries).events.filter (·.isWarning) = (Entry.leftOut entries).map .dropped ∧
      ((arrange entries).events.filter (·.isWarning)).map (·.text) =
        (Entry.leftOut entries).map Dropped.notice ∧
      entries.length = (arrange entries).reference.size +
        ((arrange entries).events.filter (·.isWarning)).length := by
  have hwarnings : (arrange entries).events.filter (·.isWarning) =
      (Entry.leftOut entries).map .dropped := by
    rw [Arrangement.warnings_events, dropped_arrange]
  refine ⟨header_arrange entries, ?_, nodup_names (ascending_arrange entries),
    mem_functions_arrange_iff entries, hwarnings, ?_, ?_⟩
  · rw [List.pairwise_map]
    refine (ascending_arrange entries).imp ?_
    intro first second hlt
    exact Text.bytes_lt_bytes_iff.mpr hlt
  · rw [hwarnings, List.map_map]
    apply List.map_congr_left
    intro entry _
    cases entry with
    | extraClass name => rfl
    | replacedFunction name => rfl
  · rw [hwarnings, List.length_map, ← dropped_arrange]
    exact (size_arrange entries).symm

end DocBlocks
