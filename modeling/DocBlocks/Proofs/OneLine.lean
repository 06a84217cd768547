import DocBlocks.Proofs.CutOff
import DocBlocks.Proofs.Embedding

/-!
A descriptor on the line of its marker and the same one on a line of its own. The first is
taken as it stands, the second goes through the repair of long texts; where the repair adds
to it, the text is none that can be read, before and after.
-/
namespace DocBlocks

open Region

namespace Text

variable {text : List Char}

theorem trimEnd_eq_reverse (text : List Char) : trimEnd text = (trimStart text.reverse).reverse :=
  rfl

theorem trimEnd_eq_self (h : ∀ c ∈ text.getLast?, isBlank c = false) : trimEnd text = text := by
  have hreverse : trimStart text.reverse = text.reverse := by
    apply trimStart_eq_self
    rwa [List.head?_reverse]
  rw [trimEnd_eq_reverse, hreverse, List.reverse_reverse]

theorem trim_spaced (hfirst : ∀ c ∈ text.head?, isBlank c = false)
    (hlast : ∀ c ∈ text.getLast?, isBlank c = false) : trim (' ' :: (text ++ [' '])) = text := by
  have hspace : isBlank ' ' = true := by decide
  have hend : trimEnd (text ++ [' ']) = text := by
    rw [trimEnd_eq_reverse, List.reverse_append, List.reverse_singleton, List.singleton_append,
      trimStart, List.dropWhile_cons, if_pos hspace]
    exact trimEnd_eq_self hlast
  rw [trim, trimStart, List.dropWhile_cons, if_pos hspace]
  cases text with
  | nil => decide
  | cons c rest =>
    have hstart : (c :: rest ++ [' ']).dropWhile isBlank = c :: rest ++ [' '] :=
      trimStart_eq_self (by simpa using hfirst)
    rw [hstart, hend]

theorem dropReturn_eq_self (h : ∀ c ∈ text.getLast?, isBlank c = false) :
    dropReturn text = text := by
  apply dropReturn_of_last
  intro hreturn
  exact absurd (h '\r' hreturn) (by decide)

end Text

namespace Region

/-- The closer behind a space is the first one if the text before has none. -/
theorem before?_closer {text : List Char} (h : ¬ closer <:+: text) :
    Text.before? closer (text ++ ' ' :: closer) = some (text ++ [' ']) := by
  induction text with
  | nil => decide
  | cons c text ih =>
    have htext : ¬ closer <:+: text := by
      intro hinfix
      exact h (List.infix_cons hinfix)
    have hnot : ¬ closer.isPrefixOf (c :: (text ++ ' ' :: closer)) = true := by
      intro hprefix
      obtain ⟨hc, hrest⟩ := List.cons_prefix_cons.mp (List.isPrefixOf_iff_prefix.mp hprefix)
      subst hc
      cases text with
      | nil => exact absurd (List.cons_prefix_cons.mp hrest).1 (by decide)
      | cons d text =>
        obtain ⟨hd, -⟩ := List.cons_prefix_cons.mp hrest
        subst hd
        exact h ⟨[], text, rfl⟩
    rw [List.cons_append, Text.before?, if_neg hnot, ih htext]
    rfl

theorem not_closer_spaced {text : List Char} (h : ¬ closer <:+: text) :
    ¬ closer <:+: ' ' :: text := by
  intro hinfix
  rcases List.infix_cons_iff.mp hinfix with hprefix | hlater
  · exact absurd (List.cons_prefix_cons.mp hprefix).1 (by decide)
  · exact h hlater

/-- A marker, a text and the closer on one line, behind other text. -/
def oneLine (tag front text : List Char) : List Char :=
  front ++ Passage.markerLine tag ++ ' ' :: (text ++ ' ' :: closer)

def threeLines (tag front text : List Char) : List (List Char) :=
  [front ++ Passage.markerLine tag, text, closer]

section Layouts

variable {tag front text : List Char} (htag : tag ≠ []) (hblank : ¬ tag.any Text.isBlank)
  (hfront : ¬ opener <:+: front) (htext : ¬ closer <:+: text)

include htag hblank hfront htext

theorem ofLines_oneLine (hfirst : ∀ c ∈ text.head?, Text.isBlank c = false)
    (hlast : ∀ c ∈ text.getLast?, Text.isBlank c = false) :
    Scan.ofLines tag .outside 1 [oneLine tag front text] =
      ⟨[⟨⟨1, String.ofList text⟩, 1⟩], none⟩ := by
  have htail : continuesWord (' ' :: (text ++ ' ' :: closer)) = false := by
    have hspace : Text.isWordChar ' ' = false := by decide +kernel
    exact hspace
  have hmarker : afterMarker? tag (oneLine tag front text) =
      some (' ' :: (text ++ ' ' :: closer)) :=
    afterMarker?_append_markerLine htag hblank hfront htail
  have hclose : Text.before? closer (' ' :: (text ++ ' ' :: closer)) =
      some (' ' :: (text ++ [' '])) := before?_closer (not_closer_spaced htext)
  rw [Scan.ofLines_cons, Mode.step_oneLine hmarker hclose, Text.trim_spaced hfirst hlast]
  rfl

theorem ofLines_threeLines :
    Scan.ofLines tag .outside 1 (threeLines tag front text) =
      ⟨[⟨⟨1, String.ofList (bodyText [text])⟩, 3⟩], none⟩ := by
  have hmarker : afterMarker? tag (front ++ Passage.markerLine tag) = some [] := by
    have hend : continuesWord [] = false := rfl
    simpa using afterMarker?_append_markerLine htag hblank hfront hend
  have hopen : ¬ closer <:+: [] := by decide
  have hbody : ∀ line ∈ [text], ¬ closer <:+: line := by simpa using htext
  exact Scan.ofLines_region hmarker hopen hbody List.infix_rfl

end Layouts

/-- Either the end of a line adds nothing, or a literal is open there and a long text too. -/
theorem endOutside_cases (fragment : List Char) :
    endOutside fragment = ⟨[], false⟩ ∨
      openTail? fragment ≠ none ∧ (endOutside fragment).longText = true := by
  by_cases hopen : openTail? fragment = none
  · exact Or.inl (endOutside_of_not_open hopen)
  · obtain ⟨tail, htail⟩ := Option.ne_none_iff_exists'.mp hopen
    unfold endOutside
    rw [htail]
    split
    · exact Or.inr ⟨Option.some_ne_none tail, rfl⟩
    · exact Or.inl rfl

end Region

/-- A line with a literal left open describes nothing. -/
theorem not_entry_of_open {text : List Char} (hline : '\n' ∉ text) (hopen : openTail? text ≠ none)
    (entry : Entry) : entryOfText (String.ofList text) ≠ .ok entry := by
  intro hentry
  obtain ⟨value, hread, -⟩ := entryOfText_eq_ok_iff.mp hentry
  rw [String.toList_ofList] at hread
  obtain ⟨hlines, -⟩ := Json.read_lines hread
  have hnonempty : text ≠ [] := by
    intro hnil
    subst hnil
    exact hopen (Quoting.openTail?_eq_none_iff.mpr rfl)
  rw [Text.lines_unended hline, if_neg hnonempty] at hlines
  exact hopen (hlines text (List.mem_singleton_self text))

/-- The repair of one line keeps the entry that it describes, and makes none. -/
theorem entryOfText_bodyText_singleton {text : List Char} (hline : '\n' ∉ text) (entry : Entry) :
    entryOfText (String.ofList text) = .ok entry ↔
      entryOfText (String.ofList (bodyText [text])) = .ok entry := by
  have hbody : bodyText [text] = text ++ (lineEnd false text).written := by
    simp [bodyText, bodyEnd]
  have hend : lineEnd false text = endOutside text := rfl
  rcases endOutside_cases text with hnothing | ⟨hopen, hlong⟩
  · rw [hbody, hend, hnothing, List.append_nil]
  · -- what was added breaks off the text, which was no JSON before
    have hbefore := not_entry_of_open hline hopen entry
    have hafter : entryOfText (String.ofList (bodyText [text])) ≠ .ok entry := by
      intro hentry
      have hclosed := endsClosed_of_entry hentry
      rw [String.toList_ofList, hbody, hend] at hclosed
      exact (breaksOff_endOutside hlong).not_endsClosed hclosed
    exact iff_of_false hbefore hafter

theorem lines_threeLines {tag front text : List Char} (htag : tag ≠ [])
    (hblank : ¬ tag.any Text.isBlank) (hfrontLine : '\n' ∉ front) (htextLine : '\n' ∉ text)
    (hlast : ∀ c ∈ text.getLast?, Text.isBlank c = false) :
    Text.lines (['\n'].intercalate (threeLines tag front text)) = threeLines tag front text := by
  have hplain : ∀ c ∈ tag, Text.isBlank c = false := by
    intro c hc
    by_contra hcontra
    exact hblank (List.any_eq_true.mpr ⟨c, hc, by simpa using hcontra⟩)
  have hmarkerLine : '\n' ∉ front ++ Passage.markerLine tag := by
    have htagLine : '\n' ∉ tag := fun hmem => absurd (hplain '\n' hmem) (by decide)
    simp [Passage.markerLine, hfrontLine, htagLine]
  have hmarkerLast : ∀ c ∈ (front ++ Passage.markerLine tag).getLast?, Text.isBlank c = false := by
    obtain ⟨c, hc⟩ := Option.ne_none_iff_exists'.mp (mt List.getLast?_eq_none_iff.mp htag)
    have hlastTag : (front ++ Passage.markerLine tag).getLast? = some c := by
      have hsplit : front ++ Passage.markerLine tag = front ++ ['/', '*', ' '] ++ tag := by
        simp [Passage.markerLine]
      rw [hsplit, List.getLast?_append, hc, Option.some_or]
    intro d hd
    obtain rfl := Option.some.inj (hlastTag.symm.trans hd)
    exact hplain c (List.mem_of_getLast? hc)
  have hsource : ['\n'].intercalate (threeLines tag front text) =
      front ++ Passage.markerLine tag ++ '\n' :: (text ++ '\n' :: closer) := by
    simp [threeLines, List.intercalate]
  have hcloser : Text.lines closer = [closer] := by decide
  rw [hsource, Text.lines_ended hmarkerLine, Text.lines_ended htextLine, hcloser,
    Text.dropReturn_eq_self hmarkerLast, Text.dropReturn_eq_self hlast]
  rfl

/-- A text between a marker and a closer makes one descriptor, be it on their line or on a
line of its own between theirs, and both describe the same entry or none. -/
theorem entry_oneLine_iff_threeLines {tag : String} {front text : List Char} (htag : tag ≠ "")
    (hblank : ¬ tag.toList.any Text.isBlank) (hfront : ¬ opener <:+: front)
    (hfrontLine : '\n' ∉ front) (htext : ¬ closer <:+: text) (htextLine : '\n' ∉ text)
    (hfirst : ∀ c ∈ text.head?, Text.isBlank c = false)
    (hlast : ∀ c ∈ text.getLast?, Text.isBlank c = false) :
    ∃ short long : Descriptor,
      (scan tag (String.ofList (oneLine tag.toList front text))).descriptors = [short] ∧
      (scan tag (String.ofList (['\n'].intercalate
        (threeLines tag.toList front text)))).descriptors = [long] ∧
      short.line = 1 ∧ long.line = 1 ∧
      ∀ entry, short.entry = .ok entry ↔ long.entry = .ok entry := by
  have hnonempty : tag.toList ≠ [] := by simpa using htag
  have hline : Text.lines (oneLine tag.toList front text) = [oneLine tag.toList front text] := by
    have htagLine : '\n' ∉ tag.toList := by
      intro hmem
      exact hblank (List.any_eq_true.mpr ⟨'\n', hmem, by decide⟩)
    have hfeed : '\n' ∉ oneLine tag.toList front text := by
      simp [oneLine, Passage.markerLine, closer, hfrontLine, htagLine, htextLine]
    have hsome : oneLine tag.toList front text ≠ [] := by simp [oneLine]
    rw [Text.lines_unended hfeed, if_neg hsome]
  refine ⟨⟨1, String.ofList text⟩, ⟨1, String.ofList (bodyText [text])⟩, ?_, ?_, rfl, rfl, ?_⟩
  · rw [Scan.descriptors, scan, String.toList_ofList, hline,
      ofLines_oneLine hnonempty hblank hfront htext hfirst hlast]
    rfl
  · rw [Scan.descriptors, scan, String.toList_ofList,
      lines_threeLines hnonempty hblank hfrontLine htextLine hlast,
      ofLines_threeLines hnonempty hblank hfront htext]
    rfl
  · intro entry
    rw [Descriptor.entry, Descriptor.entry, mapError_eq_ok_iff, mapError_eq_ok_iff]
    exact entryOfText_bodyText_singleton htextLine entry

/-- A descriptor with a long text that is closed on its line. -/
def besideText : String := "\x7b\"name\": \"f\", \"example\": \"f();\"\x7d"

theorem entry_oneLine_iff_threeLines_beside :
    ∃ short long : Descriptor,
      (scan "@doc" ("a / b; //* @doc " ++ besideText ++ " */")).descriptors = [short] ∧
      (scan "@doc" ("a / b; //* @doc\n" ++ besideText ++ "\n*/")).descriptors = [long] ∧
      short.entry = .ok (.ofFunction ⟨"f", [], none, none, none, "f();"⟩) ∧
      long.entry = .ok (.ofFunction ⟨"f", [], none, none, none, "f();"⟩) := by
  let front : List Char := "a / b; /".toList
  have hclose : ¬ closer <:+: besideText.toList := by
    rw [← Text.occursIn_iff]
    decide +kernel
  have hfirst : ∀ c ∈ besideText.toList.head?, Text.isBlank c = false := by
    have hhead : besideText.toList.head? = some '{' := by decide +kernel
    intro c hc
    obtain rfl := Option.some.inj (hhead.symm.trans hc)
    decide
  have hlast : ∀ c ∈ besideText.toList.getLast?, Text.isBlank c = false := by
    have hend : besideText.toList.getLast? = some '}' := by decide +kernel
    intro c hc
    obtain rfl := Option.some.inj (hend.symm.trans hc)
    decide
  obtain ⟨short, long, hshort, hlong, -, -, hsame⟩ :=
    @entry_oneLine_iff_threeLines "@doc" front besideText.toList (by decide)
      (by decide +kernel) (by decide +kernel) (by decide +kernel) hclose (by decide +kernel)
      hfirst hlast
  have hone : String.ofList (oneLine "@doc".toList front besideText.toList) =
      "a / b; //* @doc " ++ besideText ++ " */" := by decide +kernel
  have hthree : String.ofList (['\n'].intercalate (threeLines "@doc".toList front
      besideText.toList)) = "a / b; //* @doc\n" ++ besideText ++ "\n*/" := by decide +kernel
  rw [hone] at hshort
  rw [hthree] at hlong
  have hscan : (scan "@doc" ("a / b; //* @doc " ++ besideText ++ " */")).descriptors =
      [⟨1, besideText⟩] := by decide +kernel
  have hdescriptor : short = ⟨1, besideText⟩ := List.singleton_inj.mp (hshort.symm.trans hscan)
  have hentry : short.entry = .ok (.ofFunction ⟨"f", [], none, none, none, "f();"⟩) := by
    rw [hdescriptor]
    rfl
  exact ⟨short, long, hshort, hlong, hentry, (hsame _).mp hentry⟩

end DocBlocks
