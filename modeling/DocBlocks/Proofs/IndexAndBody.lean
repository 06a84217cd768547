import DocBlocks.Proofs.Unambiguous

/-!
The index of a reference beside its sections. Both go through the functions in one order,
and every line of the index belongs to the section at the same place: its target is what
the heading of the section becomes without the signs around the names, in lower case.
-/
namespace DocBlocks

namespace Text

theorem filter_intercalate {keep : Char → Bool} {sep : List Char} {items : List (List Char)}
    (hsep : sep.filter keep = []) :
    (sep.intercalate items).filter keep = items.flatten.filter keep := by
  induction items with
  | nil => rfl
  | cons item rest ih =>
    cases rest with
    | nil => simp
    | cons next rest =>
      rw [List.intercalate_cons_cons, List.filter_append, List.filter_append, hsep, ih,
        List.append_nil, ← List.filter_append]
      rfl

theorem filter_flatMap_lowerChar {keep : Char → Bool}
    (hkeep : ∀ c, ∀ d ∈ lowerChar c, keep d = keep c) (text : List Char) :
    (text.flatMap lowerChar).filter keep = (text.filter keep).flatMap lowerChar := by
  induction text with
  | nil => rfl
  | cons c rest ih =>
    rw [List.flatMap_cons, List.filter_append, ih]
    by_cases hc : keep c = true
    · have hall : (lowerChar c).filter keep = lowerChar c := by
        apply List.filter_eq_self.mpr
        intro d hd
        rw [hkeep c d hd, hc]
      rw [hall, List.filter_cons_of_pos hc, List.flatMap_cons]
    · have hnone : (lowerChar c).filter keep = [] := by
        apply List.filter_eq_nil_iff.mpr
        intro d hd
        rw [hkeep c d hd]
        exact hc
      rw [hnone, List.filter_cons_of_neg hc, List.nil_append]

theorem filter_lowerCase {keep : Char → Bool} (hkeep : ∀ c, ∀ d ∈ lowerChar c, keep d = keep c)
    {text : List Char} (hsigma : 'Σ' ∉ text) :
    (lowerCase text).filter keep = lowerCase (text.filter keep) := by
  have hkept : 'Σ' ∉ text.filter keep := by
    intro hmem
    exact hsigma (List.mem_of_mem_filter hmem)
  rw [lowerCase_eq_flatMap hsigma, lowerCase_eq_flatMap hkept, filter_flatMap_lowerChar hkeep]

end Text

namespace FunctionDoc

def names (doc : FunctionDoc) : List String := doc.name :: doc.parameters.map (·.name)

def letters (doc : FunctionDoc) : List Char := doc.names.flatMap String.toList

/-- A character that a signature puts around the names. -/
def isSign (c : Char) : Bool := c = '(' || c = ')' || c = ','

def withoutSigns (text : List Char) : List Char := text.filter (!isSign ·)

theorem toList_anchor (doc : FunctionDoc) : doc.anchor.toList = Text.lowerCase doc.letters := by
  rw [anchor, String.toList_ofList, letters, names, List.flatMap_cons, List.flatMap_map]

theorem withoutSigns_signature (doc : FunctionDoc) :
    withoutSigns doc.signature.toList = withoutSigns doc.letters := by
  have hcomma : ",".toList.filter (!isSign ·) = [] := by decide
  have hopen : "(".toList.filter (!isSign ·) = [] := by decide
  have hclose : ")".toList.filter (!isSign ·) = [] := by decide
  simp only [withoutSigns, signature, String.toList_append, String.toList_intercalate,
    List.filter_append, Text.filter_intercalate hcomma, hopen, hclose, List.append_nil]
  rw [← List.filter_append, letters, names, List.flatMap_cons, List.flatMap_def]

theorem withoutSigns_letters {doc : FunctionDoc}
    (h : ∀ name ∈ doc.names, ∀ c ∈ name.toList, isSign c = false) :
    withoutSigns doc.letters = doc.letters := by
  apply List.filter_eq_self.mpr
  intro c hc
  obtain ⟨name, hname, hmem⟩ := List.mem_flatMap.mp hc
  rw [h name hname c hmem]
  rfl

/-- Lower case makes no sign of another character, and leaves signs as they are. -/
theorem isSign_of_mem_lowerChar {c d : Char} (h : d ∈ Text.lowerChar c) :
    isSign d = isSign c := by
  have hsame : ∀ sign, isSign sign = true → Text.lowerChar sign = [sign] ∧
      0 < sign.toNat ∧ sign.toNat < 0x61 := by
    intro sign hsign
    simp only [isSign, Bool.or_eq_true, decide_eq_true_eq] at hsign
    rcases hsign with (hsign | hsign) | hsign <;> subst hsign <;> decide +kernel
  by_cases hc : isSign c = true
  · rw [(hsame c hc).1] at h
    rw [List.mem_singleton.mp h]
  · by_cases hd : isSign d = true
    · obtain ⟨-, hpos, hsmall⟩ := hsame d hd
      rw [Text.mem_of_mem_lowerChar hpos hsmall h]
    · rw [Bool.not_eq_true] at hc hd
      rw [hc, hd]

end FunctionDoc

/-- A line of the index and the section at the same place. -/
structure Row where
  shown : String
  target : String
  heading : String
  body : String

namespace Row

def line (row : Row) : String := "- [" ++ row.shown ++ "](#" ++ row.target ++ ")\n"

def part (row : Row) : String := "## " ++ row.heading ++ "\n\n" ++ row.body

/-- The line shows the name of a function and the section is about it. If no name has a
sign in it, the line leads to the heading of the section without the signs, in lower case;
where no sigma takes its form from a sign beside it, they may as well be left out last. -/
structure Shows (row : Row) (doc : FunctionDoc) : Prop where
  shown : row.shown = doc.name
  target : row.target = doc.anchor
  heading : row.heading = doc.signature
  part : row.part = Markdown.function doc
  leads : (∀ name ∈ doc.names, ∀ c ∈ name.toList, FunctionDoc.isSign c = false) →
    row.target.toList = Text.lowerCase (FunctionDoc.withoutSigns row.heading.toList) ∧
      ('Σ' ∉ row.heading.toList →
        row.target.toList = FunctionDoc.withoutSigns (Text.lowerCase row.heading.toList))

end Row

namespace FunctionDoc

theorem exists_row (doc : FunctionDoc) :
    ∃ row : Row, row.line = Markdown.indexLine doc ∧ row.Shows doc := by
  let body := doc.description ++ "\n\n" ++ String.join (doc.parameters.map Markdown.parameter) ++
    Markdown.returns doc.returns ++ Markdown.usage doc.usage
  refine ⟨⟨doc.name, doc.anchor, doc.signature, body⟩, rfl, ?_⟩
  refine ⟨rfl, rfl, rfl, ?_, ?_⟩
  · simp only [Row.part, Markdown.function, body, String.append_assoc]
  · intro h
    have htarget : doc.anchor.toList = Text.lowerCase (withoutSigns doc.signature.toList) := by
      rw [toList_anchor, withoutSigns_signature, withoutSigns_letters h]
    refine ⟨htarget, ?_⟩
    intro hsigma
    have hkeep : ∀ c, ∀ d ∈ Text.lowerChar c, (!isSign d) = !isSign c := by
      intro c d hd
      rw [isSign_of_mem_lowerChar hd]
    exact htarget.trans (Text.filter_lowerCase hkeep hsigma).symm

end FunctionDoc

namespace Reference

open Markdown

theorem exists_rows (functions : List FunctionDoc) :
    ∃ rows : List Row, List.Forall₂ Row.Shows rows functions ∧
      rows.map Row.line = functions.map indexLine ∧
      rows.map Row.part = functions.map function := by
  induction functions with
  | nil => exact ⟨[], .nil, rfl, rfl⟩
  | cons doc rest ih =>
    obtain ⟨row, hline, hshows⟩ := doc.exists_row
    obtain ⟨rows, hrows, hlines, hparts⟩ := ih
    refine ⟨row :: rows, .cons hshows hrows, ?_, ?_⟩
    · rw [List.map_cons, List.map_cons, hline, hlines]
    · rw [List.map_cons, List.map_cons, hshows.part, hparts]

/-- Behind a class there is something to list just where there is a function. -/
theorem one_lt_size_iff {reference : Reference} {doc : ClassDoc}
    (h : reference.header = some doc) : 1 < reference.size ↔ reference.functions ≠ [] := by
  rw [← List.length_pos_iff, size, h, Option.isSome_some, if_pos rfl]
  omega

theorem markdown_of_listed {reference : Reference} {doc : ClassDoc}
    (hheader : reference.header = some doc) (hfunctions : reference.functions ≠ []) :
    reference.markdown =
      Markdown.header doc ++ "## Methods\n\n" ++ String.join (reference.functions.map indexLine) ++
        "\n---\n\n" ++ String.join (reference.functions.map function) := by
  have hempty : reference.functions.isEmpty = false := List.isEmpty_eq_false_iff.mpr hfunctions
  simp only [markdown, hheader, index, hempty, Bool.false_eq_true, if_false, String.append_assoc]

/-- The index and the sections agree: there is a row for each function, in order, and the
Markdown of a class with functions is its header, the lines of all rows and the sections of
all rows. Where there is nothing to list, the sections follow the header, if there is one. -/
theorem markdown_rows (reference : Reference) :
    ∃ rows : List Row, List.Forall₂ Row.Shows rows reference.functions ∧
      (∀ doc, reference.header = some doc → reference.functions ≠ [] →
        1 < reference.size ∧
        reference.markdown =
          "# " ++ doc.name ++ "\n\n" ++ doc.description ++ "\n" ++
            "## Methods\n\n" ++ String.join (rows.map Row.line) ++
            "\n---\n\n" ++ String.join (rows.map Row.part)) ∧
      (reference.header = none ∨ reference.functions = [] →
        ¬ (reference.header.isSome ∧ 1 < reference.size) ∧
        reference.markdown =
          (match reference.header with
            | none => ""
            | some doc => "# " ++ doc.name ++ "\n\n" ++ doc.description ++ "\n") ++
          String.join (rows.map Row.part)) := by
  obtain ⟨rows, hrows, hlines, hparts⟩ := exists_rows reference.functions
  refine ⟨rows, hrows, ?_, ?_⟩
  · intro doc hheader hfunctions
    refine ⟨(one_lt_size_iff hheader).mpr hfunctions, ?_⟩
    rw [markdown_of_listed hheader hfunctions, hlines, hparts, Markdown.header]
  · intro hnothing
    rw [hparts, markdown]
    cases hheader : reference.header with
    | none => exact ⟨by simp, by simp⟩
    | some doc =>
      have hfunctions : reference.functions = [] := by
        rcases hnothing with hnone | hnil
        · rw [hheader] at hnone
          cases hnone
        · exact hnil
      refine ⟨?_, by simp [index, hfunctions, Markdown.header]⟩
      intro hlisted
      exact (one_lt_size_iff hheader).mp hlisted.2 hfunctions

/-- Between two letters a sigma stays what it is, and before a sign it ends a word. -/
example :
    let doc : FunctionDoc := ⟨"ΑΣ", [⟨"x", "", ""⟩], none, none, none, ""⟩
    doc.anchor.toList = "ασx".toList ∧
      FunctionDoc.withoutSigns (Text.lowerCase doc.signature.toList) = "αςx".toList := by
  decide +kernel

end Reference
end DocBlocks
