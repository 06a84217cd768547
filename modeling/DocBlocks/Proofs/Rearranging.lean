import DocBlocks.Proofs.Placement
import Mathlib.Data.List.Perm.Basic

/-!
Entries that are arranged again. A reference is told by its first class and, for each
name, by the last function of that name; so it may stand in for the entries it was made
of, and of their order only that among classes and that among functions of one name matters.
-/
namespace DocBlocks

namespace Entry

def functionNamed? (name : String) : Entry → Option FunctionDoc
  | .ofClass _ => none
  | .ofFunction doc => if doc.name = name then some doc else none

/-- The same entries in another order, with the classes in the same order as before and,
for each name, the functions of that name too. -/
structure Reordered (entries others : List Entry) : Prop where
  perm : entries.Perm others
  classes : entries.filterMap classDoc? = others.filterMap classDoc?
  functions : ∀ name, entries.filterMap (functionNamed? name) =
    others.filterMap (functionNamed? name)

theorem functionNamed?_eq_some_iff {entry : Entry} {doc : FunctionDoc} :
    entry.functionNamed? doc.name = some doc ↔ entry = .ofFunction doc := by
  cases entry with
  | ofClass other => simp [functionNamed?]
  | ofFunction other =>
    by_cases hname : other.name = doc.name
    · simp [functionNamed?, hname]
    · have hne : other ≠ doc := fun heq => hname (congrArg FunctionDoc.name heq)
      simp [functionNamed?, hname, hne]

theorem functionNamed?_eq_none_iff {entry : Entry} {name : String} :
    entry.functionNamed? name = none ↔ entry.functionName? ≠ some name := by
  cases entry with
  | ofClass doc => simp [functionNamed?, functionName?]
  | ofFunction doc => simp [functionNamed?, functionName?]

theorem lastOfName_iff_getLast? (entries : List Entry) (doc : FunctionDoc) :
    LastOfName entries doc ↔
      (entries.filterMap (functionNamed? doc.name)).getLast? = some doc := by
  induction entries using List.reverseRecOn with
  | nil => simp [LastOfName]
  | append_singleton entries entry ih =>
    rw [lastOfName_concat_iff, ih, List.filterMap_append, List.getLast?_append]
    cases hnamed : entry.functionNamed? doc.name with
    | none =>
      have hname := functionNamed?_eq_none_iff.mp hnamed
      have hentry : entry ≠ .ofFunction doc := by
        intro heq
        exact hname (by rw [heq]; rfl)
      simp [hnamed, hname, hentry]
    | some other =>
      have hname : entry.functionName? = some doc.name := by
        by_contra hnot
        cases hnamed.symm.trans (functionNamed?_eq_none_iff.mpr hnot)
      have hlast : other = doc ↔ entry = .ofFunction doc := by
        rw [← functionNamed?_eq_some_iff, hnamed, Option.some_inj]
      simp [hnamed, hname, hlast]

theorem lastOfName_append_iff (front back : List Entry) (doc : FunctionDoc) :
    LastOfName (front ++ back) doc ↔
      LastOfName back doc ∨
        back.filterMap (functionNamed? doc.name) = [] ∧ LastOfName front doc := by
  simp only [lastOfName_iff_getLast?, List.filterMap_append, List.getLast?_append]
  cases hback : (back.filterMap (functionNamed? doc.name)).getLast? with
  | none => simp [List.getLast?_eq_none_iff.mp hback]
  | some other =>
    have hne : back.filterMap (functionNamed? doc.name) ≠ [] := by
      intro hnil
      rw [hnil] at hback
      cases hback
    simp [hne]

end Entry

namespace Reference

/-- The parts of a reference as entries, the class in front. -/
def entries (reference : Reference) : List Entry :=
  reference.header.toList.map .ofClass ++ reference.functions.map .ofFunction

theorem length_entries (reference : Reference) : reference.entries.length = reference.size := by
  unfold entries size
  cases reference.header with
  | none => simp
  | some doc => simp

theorem classDoc?_entries (reference : Reference) :
    reference.entries.findSome? Entry.classDoc? = reference.header := by
  have hfunctions :
      (reference.functions.map Entry.ofFunction).findSome? Entry.classDoc? = none := by
    rw [List.findSome?_eq_none_iff]
    intro entry hentry
    obtain ⟨doc, -, heq⟩ := List.mem_map.mp hentry
    subst entry
    rfl
  unfold entries
  rw [List.findSome?_append, hfunctions, Option.or_none]
  cases reference.header with
  | none => rfl
  | some doc => rfl

theorem lastOfName_entries_iff {reference : Reference} (h : Ascending reference.functions)
    (doc : FunctionDoc) :
    Entry.LastOfName reference.entries doc ↔ doc ∈ reference.functions := by
  constructor
  · intro hlast
    obtain ⟨front, back, hsplit, -⟩ := hlast
    have hmem : Entry.ofFunction doc ∈ reference.entries := by
      rw [hsplit]
      exact List.mem_append_right front List.mem_cons_self
    rcases List.mem_append.mp hmem with hclass | hfunction
    · obtain ⟨other, -, heq⟩ := List.mem_map.mp hclass
      cases heq
    · obtain ⟨other, hother, heq⟩ := List.mem_map.mp hfunction
      cases heq
      exact hother
  · intro hmem
    obtain ⟨front, back, hsplit⟩ := List.append_of_mem hmem
    have hback : ∀ other ∈ back, doc.name < other.name := by
      unfold Ascending at h
      rw [hsplit] at h
      exact (List.pairwise_cons.mp (List.pairwise_append.mp h).2.1).1
    refine ⟨reference.header.toList.map .ofClass ++ front.map .ofFunction,
      back.map .ofFunction, ?_, ?_⟩
    · simp [entries, hsplit]
    · intro hname
      have hnames : (back.map Entry.ofFunction).filterMap Entry.functionName? =
          back.map (·.name) := by
        rw [List.filterMap_map]
        exact congrFun List.filterMap_eq_map back
      rw [hnames] at hname
      obtain ⟨other, hother, heq⟩ := List.mem_map.mp hname
      exact ne_of_name_lt (hback other hother) heq.symm

theorem eq_of_ascending {docs others : List FunctionDoc} (h : Ascending docs)
    (hother : Ascending others) (hmem : ∀ doc, doc ∈ docs ↔ doc ∈ others) : docs = others := by
  have hperm : docs.Perm others :=
    (List.perm_ext_iff_of_nodup (nodup_names h).of_map (nodup_names hother).of_map).mpr hmem
  refine hperm.eq_of_pairwise ?_ h hother
  intro doc other _ _ hlt hgt
  exact absurd hgt (String.lt_asymm hlt)

end Reference

/-- The first class and the last function of each name determine what is arranged. -/
theorem reference_arrange_eq {entries others : List Entry}
    (hclass : entries.findSome? Entry.classDoc? = others.findSome? Entry.classDoc?)
    (hlast : ∀ doc, Entry.LastOfName entries doc ↔ Entry.LastOfName others doc) :
    (arrange entries).reference = (arrange others).reference := by
  have hheader : (arrange entries).reference.header = (arrange others).reference.header := by
    rw [header_arrange, header_arrange, hclass]
  have hfunctions : (arrange entries).reference.functions =
      (arrange others).reference.functions := by
    apply Reference.eq_of_ascending (ascending_arrange entries) (ascending_arrange others)
    intro doc
    rw [mem_functions_arrange_iff, mem_functions_arrange_iff, hlast]
  show Reference.mk (arrange entries).reference.header (arrange entries).reference.functions = _
  rw [hheader, hfunctions]

/-- A reference stands in for the entries it was made of, with any others behind it. -/
theorem reference_arrange_append (entries others : List Entry) :
    (arrange ((arrange entries).reference.entries ++ others)).reference =
      (arrange (entries ++ others)).reference := by
  apply reference_arrange_eq
  · rw [List.findSome?_append, List.findSome?_append, Reference.classDoc?_entries,
      header_arrange]
  · intro doc
    rw [Entry.lastOfName_append_iff, Entry.lastOfName_append_iff,
      Reference.lastOfName_entries_iff (ascending_arrange entries), mem_functions_arrange_iff]

/-- A reference that is arranged again is left as it is, and nothing is left out. -/
theorem arrange_entries (entries : List Entry) :
    arrange (arrange entries).reference.entries = ⟨(arrange entries).reference, []⟩ := by
  have hsame : (arrange (arrange entries).reference.entries).reference =
      (arrange entries).reference := by
    simpa only [List.append_nil] using reference_arrange_append entries []
  have hdropped : (arrange (arrange entries).reference.entries).dropped = [] := by
    have hsize := size_arrange (arrange entries).reference.entries
    rw [hsame, Reference.length_entries] at hsize
    exact List.length_eq_zero_iff.mp (by omega)
  cases harranged : arrange (arrange entries).reference.entries with
  | mk reference dropped =>
    rw [harranged] at hsame hdropped
    subst hsame hdropped
    rfl

theorem reference_arrange_of_reordered {entries others : List Entry}
    (h : Entry.Reordered entries others) :
    (arrange entries).reference = (arrange others).reference := by
  apply reference_arrange_eq
  · rw [← List.head?_filterMap, ← List.head?_filterMap, h.classes]
  · intro doc
    rw [Entry.lastOfName_iff_getLast?, Entry.lastOfName_iff_getLast?, h.functions]

/-- Entries may be arranged in parts, and what is arranged may be arranged again: it stays
the same, without a warning. Entries in another order make the same reference as long as
the classes, and the functions of each name, keep theirs. -/
theorem arrange_rearranged :
    (∀ entries others : List Entry,
      (arrange ((arrange entries).reference.entries ++ others)).reference =
        (arrange (entries ++ others)).reference) ∧
    (∀ entries : List Entry,
      (arrange (arrange entries).reference.entries).reference = (arrange entries).reference ∧
        (arrange (arrange entries).reference.entries).events.filter (·.isWarning) = []) ∧
    ∀ entries others : List Entry, Entry.Reordered entries others →
      (arrange entries).reference = (arrange others).reference := by
  refine ⟨reference_arrange_append, ?_, fun _ _ => reference_arrange_of_reordered⟩
  intro entries
  rw [Arrangement.warnings_events, arrange_entries]
  exact ⟨rfl, rfl⟩

/-- Two classes, and a function between two of another name. -/
def mixedEntries : List Entry :=
  [.ofFunction ⟨"f", [], some "old", none, none, ""⟩, .ofClass ⟨"C", none, none⟩,
    .ofFunction ⟨"g", [], none, none, none, ""⟩,
    .ofFunction ⟨"f", [], some "new", none, none, ""⟩, .ofClass ⟨"D", none, none⟩]

def reorderedEntries : List Entry :=
  [.ofClass ⟨"C", none, none⟩, .ofFunction ⟨"f", [], some "old", none, none, ""⟩,
    .ofClass ⟨"D", none, none⟩, .ofFunction ⟨"f", [], some "new", none, none, ""⟩,
    .ofFunction ⟨"g", [], none, none, none, ""⟩]

theorem arrange_rearranged_mixed :
    Entry.Reordered mixedEntries reorderedEntries ∧
      (arrange reorderedEntries).reference = ⟨some ⟨"C", none, none⟩,
        [⟨"f", [], some "new", none, none, ""⟩, ⟨"g", [], none, none, none, ""⟩]⟩ := by
  have hreordered : Entry.Reordered mixedEntries reorderedEntries := by
    refine ⟨by decide, by decide, ?_⟩
    intro name
    by_cases hf : "f" = name
    · subst name
      decide
    · by_cases hg : "g" = name
      · subst name
        decide
      · simp [mixedEntries, reorderedEntries, List.filterMap_cons, Entry.functionNamed?, hf, hg]
  obtain ⟨-, -, hsame⟩ := arrange_rearranged
  refine ⟨hreordered, ?_⟩
  rw [← hsame mixedEntries reorderedEntries hreordered]
  decide

end DocBlocks
