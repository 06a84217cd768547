import DocBlocks.Proofs.Accounting
import Mathlib.Data.List.Forall2
import Mathlib.Data.Option.Defs

/-!
Markdown is read back in one way. Every part of it is told from what follows: a text on
one line ends with the line, a list of blocks ends where the next line begins otherwise,
and a usage ends at the first fence. So two references with the same Markdown show the same.
-/
namespace DocBlocks

namespace Text

/-- A number that is no code point stands for the character of code zero. -/
theorem toNat_ofNat_cases (n : Nat) : (Char.ofNat n).toNat = n ∨ (Char.ofNat n).toNat = 0 := by
  by_cases hvalid : n.isValidChar
  · have hchar : Char.ofNat n = Char.ofNatAux n hvalid := dif_pos hvalid
    exact Or.inl (congrArg Char.toNat hchar)
  · have hchar : Char.ofNat n = Char.ofNat 0 := dif_neg hvalid
    exact Or.inr (congrArg Char.toNat hchar)

/-- Below the small letters, lower case brings in no character. -/
theorem mem_of_mem_lowerChar {c d : Char} (hpos : 0 < d.toNat) (hsmall : d.toNat < 0x61)
    (h : d ∈ lowerChar c) : d = c := by
  unfold lowerChar at h
  split at h
  · rcases List.mem_pair.mp h with hd | hd <;> subst hd <;> exact absurd hsmall (by decide)
  · split at h
    · next run hrun =>
      have himage : 0x61 ≤ run.image := by
        have hall : ∀ run ∈ caseRuns, 0x61 ≤ run.image := by decide +kernel
        exact hall run (List.mem_of_find?_eq_some hrun)
      have hd : d.toNat = (Char.ofNat (run.image + (c.toNat - run.first))).toNat :=
        congrArg Char.toNat (List.mem_singleton.mp h)
      rcases toNat_ofNat_cases (run.image + (c.toNat - run.first)) with hcode | hzero
      · omega
      · omega
    · exact List.mem_singleton.mp h

theorem mem_of_mem_lowerFrom {before text : List Char} {d : Char} (hpos : 0 < d.toNat)
    (hsmall : d.toNat < 0x61) (h : d ∈ lowerFrom before text) : d ∈ text := by
  induction text generalizing before with
  | nil => exact h
  | cons c text ih =>
    rcases List.mem_append.mp h with hfirst | hrest
    · split at hfirst
      · have hd := List.mem_singleton.mp hfirst
        split at hd <;> subst hd <;> exact absurd hsmall (by decide)
      · rw [mem_of_mem_lowerChar hpos hsmall hfirst]
        exact List.mem_cons_self
    · exact List.mem_cons_of_mem c (ih hrest)

theorem mem_of_mem_lowerCase {text : List Char} {d : Char} (hpos : 0 < d.toNat)
    (hsmall : d.toNat < 0x61) (h : d ∈ lowerCase text) : d ∈ text :=
  mem_of_mem_lowerFrom hpos hsmall h

/-- A line is told from what follows it. -/
theorem line_inj {line other rest more : List Char} (hline : '\n' ∉ line) (hother : '\n' ∉ other)
    (h : line ++ '\n' :: rest = other ++ '\n' :: more) : line = other ∧ rest = more := by
  have hsplit := congrArg splitFeeds h
  rw [splitFeeds_ended hline, splitFeeds_ended hother] at hsplit
  have hsame : line = other := (List.cons.inj (congrArg Prod.fst hsplit)).1
  subst hsame
  exact ⟨rfl, (List.cons.inj (List.append_cancel_left h)).2⟩

theorem not_mem_intercalate {c : Char} {sep : List Char} {items : List (List Char)} (hsep : c ∉ sep)
    (hitems : ∀ item ∈ items, c ∉ item) : c ∉ sep.intercalate items := by
  induction items with
  | nil => simp
  | cons item rest ih =>
    obtain ⟨hitem, hrest⟩ := List.forall_mem_cons.mp hitems
    cases rest with
    | nil => simpa using hitem
    | cons next rest =>
      rw [List.intercalate_cons_cons, List.mem_append, List.mem_append, not_or, not_or]
      exact ⟨⟨hitem, hsep⟩, ih hrest⟩

/-- Blocks that begin with a mark, and are each told from what follows, are told as a list
if what follows them begins otherwise. -/
theorem forall₂_of_blocks {α : Type} {write : α → List Char} {plain : α → Prop}
    {agree : α → α → Prop} {mark : Char} (hmark : ∀ item, (write item).head? = some mark)
    (hinj : ∀ item other rest more, plain item → plain other →
      write item ++ rest = write other ++ more → agree item other ∧ rest = more)
    {items others : List α} {rest more : List Char} (hitems : ∀ item ∈ items, plain item)
    (hothers : ∀ other ∈ others, plain other) (hrest : rest.head? ≠ some mark)
    (hmore : more.head? ≠ some mark)
    (h : items.flatMap write ++ rest = others.flatMap write ++ more) :
    List.Forall₂ agree items others ∧ rest = more := by
  have hfirst : ∀ item (later : List α) (tail : List Char),
      ((item :: later).flatMap write ++ tail).head? = some mark := by
    intro item later tail
    simp [hmark]
  induction items generalizing others with
  | nil =>
    cases others with
    | nil => exact ⟨.nil, h⟩
    | cons other later =>
      exact absurd ((congrArg List.head? h).trans (hfirst other later more)) hrest
  | cons item items ih =>
    cases others with
    | nil => exact absurd ((congrArg List.head? h).symm.trans (hfirst item items rest)) hmore
    | cons other later =>
      obtain ⟨hitem, hitemsRest⟩ := List.forall_mem_cons.mp hitems
      obtain ⟨hother, hothersRest⟩ := List.forall_mem_cons.mp hothers
      simp only [List.flatMap_cons, List.append_assoc] at h
      obtain ⟨hagree, hlater⟩ := hinj item other _ _ hitem hother h
      obtain ⟨hall, hend⟩ := ih hitemsRest hothersRest hlater
      exact ⟨.cons hagree hall, hend⟩

theorem map_eq_of_forall₂ {α : Type} {write : α → String} {agree : α → α → Prop}
    (hwrite : ∀ item other, agree item other → write item = write other) {items others : List α}
    (h : List.Forall₂ agree items others) : items.map write = others.map write := by
  rw [← List.forall₂_eq_eq_eq, List.forall₂_map_left_iff, List.forall₂_map_right_iff]
  exact h.imp hwrite

theorem splitOn_line {line : List Char} (h : '\n' ∉ line) (rest : List Char) :
    (line ++ '\n' :: rest).splitOn '\n' = line :: rest.splitOn '\n' := by
  rw [List.splitOn_append_cons_self, List.splitOn_eq_singleton h]
  rfl

/-- The first line of a text that a feed ends is among the lines of the text. -/
theorem mem_splitOn_of_first {line text rest more : List Char} (hline : '\n' ∉ line)
    (h : line ++ '\n' :: rest = text ++ '\n' :: more) : line ∈ text.splitOn '\n' := by
  by_cases hfeed : '\n' ∈ text
  · obtain ⟨first, later, htext, hfirst⟩ := List.eq_append_cons_of_mem hfeed
    subst htext
    rw [List.append_assoc] at h
    obtain ⟨hsame, -⟩ := line_inj hline hfirst h
    rw [splitOn_line hfirst, hsame]
    exact List.mem_cons_self
  · obtain ⟨hsame, -⟩ := line_inj hline hfeed h
    rw [List.splitOn_eq_singleton hfeed, hsame]
    exact List.mem_singleton_self text

/-- A text is told from what follows a line that is none of its own. -/
theorem text_inj {bar text other rest more : List Char} (hbar : '\n' ∉ bar)
    (htext : bar ∉ text.splitOn '\n') (hother : bar ∉ other.splitOn '\n')
    (h : text ++ '\n' :: (bar ++ '\n' :: rest) = other ++ '\n' :: (bar ++ '\n' :: more)) :
    text = other ∧ rest = more := by
  induction text using lines_induction generalizing other with
  | unended line hline =>
    by_cases hfeed : '\n' ∈ other
    · -- the bar behind the line would be a line of the other text
      obtain ⟨first, later, hsplit, hfirst⟩ := List.eq_append_cons_of_mem hfeed
      subst hsplit
      rw [List.append_assoc] at h
      obtain ⟨-, hlater⟩ := line_inj hline hfirst h
      rw [splitOn_line hfirst] at hother
      exact absurd (List.mem_cons_of_mem first (mem_splitOn_of_first hbar hlater)) hother
    · obtain ⟨hsame, hbars⟩ := line_inj hline hfeed h
      exact ⟨hsame, (line_inj hbar hbar hbars).2⟩
  | ended line later hline ih =>
    rw [splitOn_line hline] at htext
    rw [List.append_assoc] at h
    by_cases hfeed : '\n' ∈ other
    · obtain ⟨first, otherLater, hsplit, hfirst⟩ := List.eq_append_cons_of_mem hfeed
      subst hsplit
      rw [List.append_assoc] at h
      rw [splitOn_line hfirst] at hother
      obtain ⟨hsame, hlater⟩ := line_inj hline hfirst h
      obtain ⟨hrest, hend⟩ := ih (fun hmem => htext (List.mem_cons_of_mem line hmem))
        (fun hmem => hother (List.mem_cons_of_mem first hmem)) hlater
      exact ⟨by rw [hsame, hrest], hend⟩
    · obtain ⟨-, hlater⟩ := line_inj hline hfeed h
      exact absurd (List.mem_cons_of_mem line (mem_splitOn_of_first hbar hlater.symm)) htext

end Text

/-- The texts of a parameter stand on one line each. -/
structure Parameter.Plain (p : Parameter) : Prop where
  name : '\n' ∉ p.name.toList
  type : '\n' ∉ p.type.toList
  text : '\n' ∉ p.text.toList

/-- The line that begins and ends a usage. -/
def Markdown.fence : List Char := "```".toList

/-- What is shown of a function stands on one line each, but for the usage. That may have
any lines but fences. -/
structure FunctionDoc.Plain (doc : FunctionDoc) : Prop where
  name : '\n' ∉ doc.name.toList
  parameters : ∀ p ∈ doc.parameters, p.Plain
  description : '\n' ∉ doc.description.toList
  returns : ∀ text ∈ doc.returns, '\n' ∉ text.toList
  usage : Markdown.fence ∉ doc.usage.toList.splitOn '\n'

structure ClassDoc.Plain (doc : ClassDoc) : Prop where
  name : '\n' ∉ doc.name.toList
  description : '\n' ∉ doc.description.toList

structure Reference.Plain (reference : Reference) : Prop where
  header : ∀ doc ∈ reference.header, doc.Plain
  functions : ∀ doc ∈ reference.functions, doc.Plain

/-- The functions show the same. Of a short text behind a long one nothing is shown. -/
structure FunctionDoc.Agrees (doc other : FunctionDoc) : Prop where
  name : doc.name = other.name
  parameters : doc.parameters = other.parameters
  description : doc.description = other.description
  returns : doc.returns = other.returns
  usage : doc.usage = other.usage

structure ClassDoc.Agrees (doc other : ClassDoc) : Prop where
  name : doc.name = other.name
  description : doc.description = other.description

/-- Both references have a class or neither has one, and they have as many functions; the
classes agree, and the functions one by one. -/
structure Reference.Agrees (reference other : Reference) : Prop where
  header : Option.Rel ClassDoc.Agrees reference.header other.header
  functions : List.Forall₂ FunctionDoc.Agrees reference.functions other.functions

namespace FunctionDoc

theorem Plain.signature {doc : FunctionDoc} (h : doc.Plain) : '\n' ∉ doc.signature.toList := by
  have hnames : '\n' ∉ [','].intercalate ((doc.parameters.map (·.name)).map String.toList) := by
    apply Text.not_mem_intercalate (by decide)
    intro text htext
    obtain ⟨name, hname, hsame⟩ := List.mem_map.mp htext
    obtain ⟨p, hp, hpname⟩ := List.mem_map.mp hname
    subst hpname hsame
    exact (h.parameters p hp).name
  simp only [FunctionDoc.signature, String.toList_append, String.toList_intercalate,
    List.mem_append, not_or]
  exact ⟨⟨⟨h.name, by decide⟩, hnames⟩, by decide⟩

theorem Plain.anchor {doc : FunctionDoc} (h : doc.Plain) : '\n' ∉ doc.anchor.toList := by
  intro hmem
  rw [FunctionDoc.anchor, String.toList_ofList] at hmem
  rcases List.mem_append.mp (Text.mem_of_mem_lowerCase (by decide) (by decide) hmem) with
    hname | hparameter
  · exact h.name hname
  · obtain ⟨p, hp, hpname⟩ := List.mem_flatMap.mp hparameter
    exact (h.parameters p hp).name hpname

theorem name_of_signature {doc other : FunctionDoc} (h : doc.signature = other.signature)
    (hparameters : doc.parameters = other.parameters) : doc.name = other.name := by
  unfold signature at h
  rw [hparameters, String.append_left_inj, String.append_left_inj, String.append_left_inj] at h
  exact h

end FunctionDoc

namespace Markdown

/-- A label, a text on the same line, and an empty line. -/
def paragraph (label text : String) : List Char := label.toList ++ text.toList ++ ['\n', '\n']

theorem paragraph_inj {label text other : String} {rest more : List Char}
    (htext : '\n' ∉ text.toList) (hother : '\n' ∉ other.toList)
    (h : paragraph label text ++ rest = paragraph label other ++ more) :
    text = other ∧ rest = more := by
  simp only [paragraph, List.append_assoc] at h
  obtain ⟨hsame, hrest⟩ := Text.line_inj htext hother (List.append_cancel_left h)
  exact ⟨String.toList_inj.mp hsame, (List.cons.inj hrest).2⟩

theorem toList_parameter (p : Parameter) :
    (parameter p).toList =
      paragraph "- " p.name ++ (paragraph "  type: " p.type ++ paragraph "  " p.text) := by
  simp [parameter, paragraph]

theorem parameter_inj {p q : Parameter} {rest more : List Char} (hp : p.Plain) (hq : q.Plain)
    (h : (parameter p).toList ++ rest = (parameter q).toList ++ more) : p = q ∧ rest = more := by
  simp only [toList_parameter, List.append_assoc] at h
  obtain ⟨hname, hbehindName⟩ := paragraph_inj hp.name hq.name h
  obtain ⟨htype, hbehindType⟩ := paragraph_inj hp.type hq.type hbehindName
  obtain ⟨htext, hend⟩ := paragraph_inj hp.text hq.text hbehindType
  constructor
  · show Parameter.mk p.name p.type p.text = q
    rw [hname, htype, htext]
  · exact hend

theorem toList_usage (text : String) :
    (usage text).toList =
      "```\n".toList ++ (text.toList ++ '\n' :: (fence ++ ['\n', '\n'])) := by
  simp [usage, fence]

theorem usage_inj {text other : String} {rest more : List Char}
    (htext : fence ∉ text.toList.splitOn '\n') (hother : fence ∉ other.toList.splitOn '\n')
    (h : (usage text).toList ++ rest = (usage other).toList ++ more) :
    text = other ∧ rest = more := by
  have hfence : '\n' ∉ fence := by decide +kernel
  simp only [toList_usage, List.append_assoc, List.cons_append] at h
  obtain ⟨hsame, hrest⟩ := Text.text_inj hfence htext hother (List.append_cancel_left h)
  exact ⟨String.toList_inj.mp hsame, (List.cons.inj hrest).2⟩

theorem head?_usage (text : String) (rest : List Char) :
    ((usage text).toList ++ rest).head? = fence.head? := by
  rw [toList_usage]
  simp [fence]

theorem toList_returns_some (text : String) :
    (returns (some text)).toList = paragraph "**Returns:** " text := by
  simp [returns, paragraph]

/-- What is returned is told from the usage that follows it, also if there is none. -/
theorem returns_inj {found other : Option String} {text otherText : String}
    {rest more : List Char} (hfound : ∀ text ∈ found, '\n' ∉ text.toList)
    (hother : ∀ text ∈ other, '\n' ∉ text.toList)
    (h : (returns found).toList ++ ((usage text).toList ++ rest) =
      (returns other).toList ++ ((usage otherText).toList ++ more)) :
    found = other ∧ (usage text).toList ++ rest = (usage otherText).toList ++ more := by
  -- a star begins what is returned, and a backtick the usage
  have hstar : ∀ shown (tail : List Char),
      ((returns (some shown)).toList ++ tail).head? = some '*' := by
    intro shown tail
    rw [toList_returns_some]
    rfl
  have husage : ∀ text (tail : List Char), ((usage text).toList ++ tail).head? ≠ some '*' := by
    intro text tail
    rw [head?_usage]
    decide +kernel
  cases found with
  | none =>
    cases other with
    | none => exact ⟨rfl, h⟩
    | some shown => exact absurd ((congrArg List.head? h).trans (hstar _ _)) (husage _ _)
  | some shown =>
    cases other with
    | none => exact absurd ((congrArg List.head? h).symm.trans (hstar _ _)) (husage _ _)
    | some otherShown =>
      rw [toList_returns_some, toList_returns_some] at h
      obtain ⟨hsame, hrest⟩ := paragraph_inj (hfound shown rfl) (hother otherShown rfl) h
      exact ⟨congrArg some hsame, hrest⟩

theorem toList_function (doc : FunctionDoc) :
    (function doc).toList = paragraph "## " doc.signature ++ (paragraph "" doc.description ++
      (doc.parameters.flatMap (fun p => (parameter p).toList) ++
        ((returns doc.returns).toList ++ (usage doc.usage).toList))) := by
  simp [function, paragraph, String.toList_join, List.flatMap_map]

/-- A section is told from what follows it. -/
theorem function_inj {doc other : FunctionDoc} {rest more : List Char} (hdoc : doc.Plain)
    (hother : other.Plain)
    (h : (function doc).toList ++ rest = (function other).toList ++ more) :
    doc.Agrees other ∧ rest = more := by
  simp only [toList_function, List.append_assoc] at h
  obtain ⟨hsignature, hbehindHead⟩ := paragraph_inj hdoc.signature hother.signature h
  obtain ⟨hdescription, hbehindText⟩ :=
    paragraph_inj hdoc.description hother.description hbehindHead
  have hend : ∀ found text (tail : List Char),
      ((returns found).toList ++ ((usage text).toList ++ tail)).head? ≠ some '-' := by
    intro found text tail
    cases found with
    | none =>
      show ((usage text).toList ++ tail).head? ≠ some '-'
      rw [head?_usage]
      decide +kernel
    | some shown =>
      rw [toList_returns_some]
      exact Option.some_inj.not.mpr (by decide)
  have hmark : ∀ p : Parameter, (parameter p).toList.head? = some '-' := by
    intro p
    rw [toList_parameter]
    rfl
  obtain ⟨hblocks, hbehindBlocks⟩ :=
    Text.forall₂_of_blocks hmark (fun _ _ _ _ => parameter_inj)
      hdoc.parameters hother.parameters (hend _ _ _) (hend _ _ _) hbehindText
  obtain ⟨hreturns, husages⟩ := returns_inj hdoc.returns hother.returns hbehindBlocks
  obtain ⟨husage, hlast⟩ := usage_inj hdoc.usage hother.usage husages
  have hparameters : doc.parameters = other.parameters := by
    rwa [List.forall₂_eq_eq_eq] at hblocks
  have hname := FunctionDoc.name_of_signature hsignature hparameters
  exact ⟨⟨hname, hparameters, hdescription, hreturns, husage⟩, hlast⟩

/-- All sections of a reference. -/
def sections (functions : List FunctionDoc) : List Char :=
  functions.flatMap (fun doc => (function doc).toList)

theorem sections_inj {functions others : List FunctionDoc} (hplain : ∀ doc ∈ functions, doc.Plain)
    (hothers : ∀ doc ∈ others, doc.Plain) (h : sections functions = sections others) :
    List.Forall₂ FunctionDoc.Agrees functions others := by
  have hmark : ∀ doc : FunctionDoc, (function doc).toList.head? = some '#' := by
    intro doc
    rw [toList_function]
    rfl
  have hend : ([] : List Char).head? ≠ some '#' := by decide
  have hblocks : sections functions ++ [] = sections others ++ [] := by rw [h]
  exact (Text.forall₂_of_blocks hmark (fun _ _ _ _ => function_inj) hplain hothers hend hend
    hblocks).1

theorem indexLine_inj {doc other : FunctionDoc} {rest more : List Char} (hdoc : doc.Plain)
    (hother : other.Plain)
    (h : (indexLine doc).toList ++ rest = (indexLine other).toList ++ more) :
    indexLine doc = indexLine other ∧ rest = more := by
  have hline : ∀ doc : FunctionDoc, doc.Plain →
      ∃ line, '\n' ∉ line ∧ (indexLine doc).toList = line ++ ['\n'] := by
    intro doc hdoc
    refine ⟨("- [" ++ doc.name ++ "](#" ++ doc.anchor ++ ")").toList, ?_, ?_⟩
    · simp [hdoc.name, hdoc.anchor]
    · simp [indexLine]
  obtain ⟨line, hplain, heq⟩ := hline doc hdoc
  obtain ⟨otherLine, hotherPlain, hotherEq⟩ := hline other hother
  rw [heq, hotherEq, List.append_assoc, List.append_assoc] at h
  obtain ⟨hsame, hrest⟩ := Text.line_inj hplain hotherPlain h
  have hlines : (indexLine doc).toList = (indexLine other).toList := by rw [heq, hotherEq, hsame]
  exact ⟨String.toList_inj.mp hlines, hrest⟩

theorem indexLine_of_agrees {doc other : FunctionDoc} (h : doc.Agrees other) :
    indexLine doc = indexLine other := by
  simp only [indexLine, FunctionDoc.anchor, h.name, h.parameters]

theorem function_of_agrees {doc other : FunctionDoc} (h : doc.Agrees other) :
    function doc = function other := by
  simp only [function, FunctionDoc.signature, h.name, h.parameters, h.description, h.returns,
    h.usage]

theorem index_of_agrees {functions others : List FunctionDoc}
    (h : List.Forall₂ FunctionDoc.Agrees functions others) : index functions = index others := by
  have hlines := Text.map_eq_of_forall₂ (fun _ _ hdoc => indexLine_of_agrees hdoc) h
  cases h with
  | nil => rfl
  | cons hdoc hrest => simp only [index, List.isEmpty_cons, hlines]

theorem toList_index_cons (doc : FunctionDoc) (rest : List FunctionDoc) :
    (index (doc :: rest)).toList = "## Methods\n\n".toList ++
      ((doc :: rest).flatMap (fun doc => (indexLine doc).toList) ++ "\n---\n\n".toList) := by
  simp [index, String.toList_join, List.flatMap_map]

/-- Behind the class, the sections are told from the index in front of them. It is left out
only where there are no sections. -/
theorem sections_of_index {functions others : List FunctionDoc}
    (hplain : ∀ doc ∈ functions, doc.Plain) (hothers : ∀ doc ∈ others, doc.Plain)
    (h : (index functions).toList ++ sections functions =
      (index others).toList ++ sections others) :
    sections functions = sections others := by
  cases functions with
  | nil =>
    cases others with
    | nil => rfl
    | cons doc rest =>
      rw [toList_index_cons] at h
      cases h
  | cons doc rest =>
    cases others with
    | nil =>
      rw [toList_index_cons] at h
      cases h
    | cons other later =>
      simp only [toList_index_cons, List.append_assoc] at h
      have hmark : ∀ doc : FunctionDoc, (indexLine doc).toList.head? = some '-' := by
        intro doc
        simp [indexLine]
      have hend : ∀ tail : List Char, ("\n---\n\n".toList ++ tail).head? ≠ some '-' := by
        intro tail
        exact Option.some_inj.not.mpr (by decide)
      obtain ⟨-, hrest⟩ := Text.forall₂_of_blocks hmark (fun _ _ _ _ => indexLine_inj)
        hplain hothers (hend _) (hend _) (List.append_cancel_left h)
      exact List.append_cancel_left hrest

end Markdown

namespace Reference

open Markdown

theorem toList_markdown_of_none {reference : Reference} (h : reference.header = none) :
    reference.markdown.toList = sections reference.functions := by
  simp [markdown, h, sections, String.toList_join, List.flatMap_map]

theorem toList_markdown_of_class {reference : Reference} {doc : ClassDoc}
    (h : reference.header = some doc) :
    reference.markdown.toList = paragraph "# " doc.name ++ (doc.description.toList ++
      '\n' :: ((index reference.functions).toList ++ sections reference.functions)) := by
  simp [markdown, h, Markdown.header, paragraph, sections, String.toList_join, List.flatMap_map]

/-- What is shown can be told from the Markdown. -/
theorem agrees_of_markdown_eq {reference other : Reference} (hplain : reference.Plain)
    (hother : other.Plain) (h : reference.markdown = other.markdown) :
    reference.Agrees other := by
  have hclass : reference.header.isSome = true ↔ other.header.isSome = true := by
    rw [isSome_header_iff, isSome_header_iff, h]
  have htext := congrArg String.toList h
  cases hheader : reference.header with
  | none =>
    cases hotherHeader : other.header with
    | some otherDoc =>
      rw [hheader, hotherHeader] at hclass
      exact absurd (hclass.mpr rfl) Bool.false_ne_true
    | none =>
      rw [toList_markdown_of_none hheader, toList_markdown_of_none hotherHeader] at htext
      refine ⟨?_, sections_inj hplain.functions hother.functions htext⟩
      rw [hheader, hotherHeader]
      exact .none
  | some doc =>
    cases hotherHeader : other.header with
    | none =>
      rw [hheader, hotherHeader] at hclass
      exact absurd (hclass.mp rfl) Bool.false_ne_true
    | some otherDoc =>
      have hdoc := hplain.header doc hheader
      have hotherDoc := hother.header otherDoc hotherHeader
      rw [toList_markdown_of_class hheader, toList_markdown_of_class hotherHeader] at htext
      obtain ⟨hname, hbehindName⟩ := paragraph_inj hdoc.name hotherDoc.name htext
      obtain ⟨hdescription, hbehindText⟩ :=
        Text.line_inj hdoc.description hotherDoc.description hbehindName
      have hsections := sections_of_index hplain.functions hother.functions hbehindText
      refine ⟨?_, sections_inj hplain.functions hother.functions hsections⟩
      rw [hheader, hotherHeader]
      exact .some ⟨hname, String.toList_inj.mp hdescription⟩

/-- Of a reference, its Markdown shows exactly what references have to agree on. -/
theorem markdown_eq_of_agrees {reference other : Reference} (h : reference.Agrees other) :
    reference.markdown = other.markdown := by
  obtain ⟨found, functions⟩ := reference
  obtain ⟨otherFound, others⟩ := other
  obtain ⟨hheader, hfunctions⟩ := h
  have hsections := Text.map_eq_of_forall₂ (fun _ _ hdoc => function_of_agrees hdoc) hfunctions
  cases hheader with
  | none => simp only [markdown, hsections]
  | some hdoc =>
    simp only [markdown, Markdown.header, hdoc.name, hdoc.description, hsections,
      index_of_agrees hfunctions]

/-- References show the same exactly if they agree. -/
theorem markdown_eq_iff_agrees {reference other : Reference} (hplain : reference.Plain)
    (hother : other.Plain) : reference.markdown = other.markdown ↔ reference.Agrees other :=
  ⟨agrees_of_markdown_eq hplain hother, markdown_eq_of_agrees⟩

/-- A function with a short text behind its long one. -/
def scale (short : Option String) : FunctionDoc :=
  ⟨"scale", [⟨"k", "number", "the factor"⟩], short, some "Scales in place.", none,
    "s.scale(2);\n\ns.scale(3);"⟩

def shape (short : Option String) : Reference :=
  ⟨some ⟨"Shape", some "In the plane.", none⟩,
    [⟨"area", [], none, none, some "a number", "s.area()"⟩, scale short]⟩

theorem plain_scale (short : Option String) : (scale short).Plain where
  name := show '\n' ∉ "scale".toList by decide
  parameters := by
    intro p hp
    cases List.mem_singleton.mp hp
    exact ⟨by decide, by decide, by decide⟩
  description := show '\n' ∉ "Scales in place.".toList by decide
  returns := by simp [scale]
  usage := show Markdown.fence ∉ "s.scale(2);\n\ns.scale(3);".toList.splitOn '\n' by decide +kernel

theorem plain_shape (short : Option String) : (shape short).Plain where
  header := by
    intro doc hdoc
    cases hdoc
    exact ⟨by decide, by decide⟩
  functions := by
    intro doc hdoc
    rcases List.mem_pair.mp hdoc with harea | hscale
    · subst harea
      exact ⟨by decide, by simp, by decide, by simp, by decide +kernel⟩
    · subst hscale
      exact plain_scale short

theorem markdown_eq_iff_agrees_shape :
    (shape none).Plain ∧ (shape (some "Scales.")).Plain ∧
      ((shape none).markdown = (shape (some "Scales.")).markdown ↔
        (shape none).Agrees (shape (some "Scales."))) :=
  ⟨plain_shape none, plain_shape _, markdown_eq_iff_agrees (plain_shape none) (plain_shape _)⟩

end Reference

end DocBlocks
