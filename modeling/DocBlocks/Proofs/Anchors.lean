import DocBlocks.Proofs.IndexAndBody
import DocBlocks.Proofs.Placement

/-!
Where the lines of the index lead. A target is made of letters alone: of all names in lower
case, with nothing between them. Names that differ keep functions apart in a reference, but
not their targets; these differ unless the letters are the same in lower case.
-/
namespace DocBlocks

namespace Text

theorem length_lowerChar {c : Char} (h : c ≠ 'İ') : (lowerChar c).length = 1 := by
  rw [lowerChar, if_neg h]
  split
  · rfl
  · rfl

theorem flatMap_lowerChar_eq_nil_iff {text : List Char} (h : 'İ' ∉ text) :
    text.flatMap lowerChar = [] ↔ text = [] := by
  cases text with
  | nil => exact iff_of_true rfl rfl
  | cons c rest =>
    have hc := length_lowerChar (Ne.symm (not_or.mp (mt List.mem_cons.mpr h)).1)
    apply iff_of_false
    · intro hnil
      rw [List.flatMap_cons, List.append_eq_nil_iff] at hnil
      rw [hnil.1] at hc
      cases hc
    · exact List.cons_ne_nil c rest

theorem flatMap_lowerChar_eq_iff {text other : List Char} (htext : 'İ' ∉ text)
    (hother : 'İ' ∉ other) :
    text.flatMap lowerChar = other.flatMap lowerChar ↔
      List.Forall₂ (fun c d => lowerChar c = lowerChar d) text other := by
  induction text generalizing other with
  | nil =>
    rw [List.flatMap_nil, eq_comm, flatMap_lowerChar_eq_nil_iff hother,
      List.forall₂_nil_left_iff]
  | cons c rest ih =>
    cases other with
    | nil =>
      rw [List.flatMap_nil, flatMap_lowerChar_eq_nil_iff htext, List.forall₂_nil_right_iff]
    | cons d more =>
      obtain ⟨hc, hrest⟩ := not_or.mp (mt List.mem_cons.mpr htext)
      obtain ⟨hd, hmore⟩ := not_or.mp (mt List.mem_cons.mpr hother)
      have hlength : (lowerChar c).length = (lowerChar d).length := by
        rw [length_lowerChar (Ne.symm hc), length_lowerChar (Ne.symm hd)]
      rw [List.flatMap_cons, List.flatMap_cons, List.forall₂_cons, ← ih hrest hmore]
      constructor
      · intro h
        exact List.append_inj h hlength
      · intro h
        rw [h.1, h.2]

end Text

namespace FunctionDoc

/-- All names run together are the same in lower case. -/
def Meets (doc other : FunctionDoc) : Prop :=
  Text.lowerCase doc.letters = Text.lowerCase other.letters

theorem anchor_eq_iff {doc other : FunctionDoc} :
    doc.anchor = other.anchor ↔ doc.Meets other := by
  rw [← String.toList_inj, toList_anchor, toList_anchor, Meets]

/-- Without letters that their neighbours change or that become two, functions meet just
where their letters are as many and differ in case alone. -/
theorem meets_iff {doc other : FunctionDoc}
    (hdoc : 'Σ' ∉ doc.letters ∧ 'İ' ∉ doc.letters)
    (hother : 'Σ' ∉ other.letters ∧ 'İ' ∉ other.letters) :
    doc.Meets other ↔ List.Forall₂ (fun c d => Text.lowerChar c = Text.lowerChar d)
      doc.letters other.letters := by
  rw [Meets, Text.lowerCase_eq_flatMap hdoc.1, Text.lowerCase_eq_flatMap hother.1,
    Text.flatMap_lowerChar_eq_iff hdoc.2 hother.2]

end FunctionDoc

namespace Reference

theorem nodup_anchors_iff {functions : List FunctionDoc} (h : (functions.map (·.name)).Nodup) :
    (functions.map (·.anchor)).Nodup ↔
      ∀ doc ∈ functions, ∀ other ∈ functions, doc.name ≠ other.name → ¬ doc.Meets other := by
  constructor
  · intro hanchors doc hdoc other hother hname hmeets
    have hsame := List.inj_on_of_nodup_map hanchors hdoc hother
      (FunctionDoc.anchor_eq_iff.mpr hmeets)
    exact hname (congrArg FunctionDoc.name hsame)
  · intro hapart
    apply List.Nodup.map_on
    · intro doc hdoc other hother hanchor
      by_contra hne
      apply hapart doc hdoc other hother
      · intro hname
        exact hne (List.inj_on_of_nodup_map h hdoc hother hname)
      · exact FunctionDoc.anchor_eq_iff.mp hanchor
    · exact List.Nodup.of_map _ h

theorem targets_eq {rows : List Row} {functions : List FunctionDoc}
    (h : List.Forall₂ Row.Shows rows functions) :
    rows.map Row.target = functions.map (·.anchor) := by
  induction h with
  | nil => rfl
  | cons hshows hrest ih => rw [List.map_cons, List.map_cons, hshows.target, ih]

end Reference

/-- In arranged entries, functions at different places differ in name, and in their targets
unless all names run together are the same in lower case. So no two lines of the index
share a target if no two functions, each the last of its name, meet in this way. -/
theorem targets_nodup_iff (entries : List Entry) :
    (arrange entries).reference.functions.Pairwise (fun doc other =>
        doc.name ≠ other.name ∧ (doc.anchor = other.anchor ↔ doc.Meets other)) ∧
      (∃ rows : List Row, List.Forall₂ Row.Shows rows (arrange entries).reference.functions ∧
        (∀ doc, (arrange entries).reference.header = some doc →
          (arrange entries).reference.functions ≠ [] →
          (arrange entries).reference.markdown =
            Markdown.header doc ++ "## Methods\n\n" ++ String.join (rows.map Row.line) ++
              "\n---\n\n" ++ String.join (rows.map Row.part)) ∧
        ((rows.map Row.target).Nodup ↔
          ∀ doc other, Entry.LastOfName entries doc → Entry.LastOfName entries other →
            doc.name ≠ other.name → ¬ doc.Meets other)) ∧
      ∀ doc other : FunctionDoc, 'Σ' ∉ doc.letters ∧ 'İ' ∉ doc.letters →
        'Σ' ∉ other.letters ∧ 'İ' ∉ other.letters →
        (doc.Meets other ↔ List.Forall₂ (fun c d => Text.lowerChar c = Text.lowerChar d)
          doc.letters other.letters) := by
  have hascending := ascending_arrange entries
  obtain ⟨rows, hrows, hlines, hparts⟩ :=
    Reference.exists_rows (arrange entries).reference.functions
  refine ⟨?_, ⟨rows, hrows, ?_, ?_⟩, fun _ _ => FunctionDoc.meets_iff⟩
  · apply hascending.imp
    intro doc other hlt
    exact ⟨Reference.ne_of_name_lt hlt, FunctionDoc.anchor_eq_iff⟩
  · intro doc hheader hfunctions
    rw [Reference.markdown_of_listed hheader hfunctions, hlines, hparts]
  · rw [Reference.targets_eq hrows, Reference.nodup_anchors_iff (nodup_names hascending)]
    simp only [mem_functions_arrange_iff]
    constructor
    · intro h doc other hdoc hother
      exact h doc hdoc other hother
    · intro h doc hdoc other hother
      exact h doc other hdoc hother

/-- Functions of a class for which two lines of the index have one target, twice. -/
def crowdedEntries : List Entry :=
  [.ofClass ⟨"File", none, none⟩,
    .ofFunction ⟨"write", [], none, none, none, ""⟩,
    .ofFunction ⟨"Write", [], none, none, none, ""⟩,
    .ofFunction ⟨"upto", [], none, none, none, ""⟩,
    .ofFunction ⟨"up", [⟨"to", "", ""⟩], none, none, none, ""⟩]

/-- Different names alone do not make the targets different. -/
theorem targets_shared :
    (arrange crowdedEntries).reference.names = ["Write", "up", "upto", "write"] ∧
      Markdown.index (arrange crowdedEntries).reference.functions =
        "## Methods\n\n- [Write](#write)\n- [up](#upto)\n- [upto](#upto)\n- [write](#write)\n\n---\n\n" ∧
      ¬ ∀ entries, ((arrange entries).reference.functions.map (·.anchor)).Nodup := by
  refine ⟨by decide +kernel, by decide +kernel, ?_⟩
  intro h
  exact absurd (h crowdedEntries) (by decide +kernel)

end DocBlocks
