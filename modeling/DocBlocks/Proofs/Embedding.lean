import DocBlocks.Build
import DocBlocks.Proofs.Decomposition
import DocBlocks.Proofs.LineBreaks

/-!
Descriptors that stand in other text. Each one is written over whole lines,
broken wherever JSON has white space, between a line with the marker and one
with the closer; every one of them is found there and read as if it stood alone.
-/
namespace DocBlocks

open Region

/-- A text that describes an entry, with the lines that follow its region. -/
structure Passage (tag : List Char) where
  text : String
  entry : Entry
  gap : List (List Char)
  entry_eq : entryOfText text = .ok entry
  not_closed : ∀ line ∈ Text.lines text.toList, ¬ closer <:+: line
  unmarked : ∀ line ∈ gap, afterMarker? tag line = none

namespace Passage

variable {tag : List Char}

def markerLine (tag : List Char) : List Char := '/' :: '*' :: ' ' :: tag

/-- A passage as it is written: the marker, the text, the closer, and the gap. -/
def lines (passage : Passage tag) : List (List Char) :=
  markerLine tag :: (Text.lines passage.text.toList ++ closer :: passage.gap)

def joined (passage : Passage tag) : List Char := (Text.lines passage.text.toList).flatten

end Passage

namespace Region

def opener : List Char := ['/', '*']

theorem findMarker?_append {tag front : List Char} (h : ¬ opener <:+: front)
    (rest : List Char) :
    findMarker? tag (front ++ '/' :: '*' :: rest) = findMarker? tag ('/' :: '*' :: rest) := by
  induction front with
  | nil => rfl
  | cons c front ih =>
    have hfront : ¬ opener <:+: front := by
      intro hinfix
      exact h (List.infix_cons hinfix)
    have hskip : findMarker? tag (c :: (front ++ '/' :: '*' :: rest)) =
        findMarker? tag (front ++ '/' :: '*' :: rest) := by
      rw [findMarker?]
      intro later hc hlater
      subst hc
      cases front with
      | nil => cases hlater
      | cons d front =>
        obtain ⟨hd, -⟩ := List.cons.inj hlater
        subst hd
        exact h ⟨[], front, rfl⟩
    rw [List.cons_append, hskip, ih hfront]

end Region

/-- A tag behind a comment opener and a space is a marker, where no word goes on behind it
and no other opener stands before it. -/
theorem afterMarker?_append_markerLine {tag front : List Char} (htag : tag ≠ [])
    (hblank : ¬ tag.any Text.isBlank) (hfront : ¬ opener <:+: front) {tail : List Char}
    (htail : continuesWord tail = false) :
    afterMarker? tag (front ++ Passage.markerLine tag ++ tail) = some tail := by
  have htrim : Text.trimStart (' ' :: tag ++ tail) = tag ++ tail := by
    cases tag with
    | nil => exact absurd rfl htag
    | cons c rest =>
      have hc : ¬ Text.isBlank c = true := by
        intro hc
        exact hblank (List.any_eq_true.mpr ⟨c, List.mem_cons_self, hc⟩)
      have hspace : Text.isBlank ' ' = true := by decide
      simp only [Text.trimStart, List.cons_append, List.dropWhile_cons, if_pos hspace, if_neg hc]
  have hfound : afterTag? tag (' ' :: tag ++ tail) = some tail := by
    rw [afterTag?_eq_some_iff, htrim]
    exact ⟨rfl, htail⟩
  have hline : front ++ Passage.markerLine tag ++ tail =
      front ++ '/' :: '*' :: (' ' :: tag ++ tail) := by
    simp [Passage.markerLine]
  rw [afterMarker?, if_neg htag, hline, findMarker?_append hfront, findMarker?, hfound]
  rfl

theorem afterMarker?_markerLine {tag : List Char} (htag : tag ≠ [])
    (hblank : ¬ tag.any Text.isBlank) :
    afterMarker? tag (Passage.markerLine tag) = some [] := by
  have hfront : ¬ opener <:+: [] := by decide
  have htail : continuesWord [] = false := rfl
  simpa using afterMarker?_append_markerLine htag hblank hfront htail

theorem bodyText_of_not_open {body : List (List Char)}
    (h : ∀ line ∈ body, openTail? line = none) : bodyText body = body.flatten := by
  unfold bodyText
  induction body with
  | nil => rfl
  | cons line body ih =>
    obtain ⟨hopen, hrest⟩ := List.forall_mem_cons.mp h
    have hline : lineEnd false line = ⟨[], false⟩ := endOutside_of_not_open hopen
    simp only [bodyEnd, hline, ih hrest, List.append_nil, List.flatten_cons]

theorem entryOfText_eq_ok_iff {text : String} {entry : Entry} :
    entryOfText text = .ok entry ↔
      ∃ value, Json.read text.toList = .ok value ∧ Decode.entry value = .ok entry := by
  unfold entryOfText
  cases hread : Json.read text.toList with
  | error fault => simp
  | ok value =>
    change (Decode.entry value).mapError Flaw.shape = .ok entry ↔ _
    rw [mapError_eq_ok_iff]
    constructor
    · intro hentry
      exact ⟨value, rfl, hentry⟩
    · rintro ⟨other, hother, hentry⟩
      obtain rfl := Except.ok.inj hother
      exact hentry

namespace Passage

variable {tag : List Char}

/-- Joined lines leave no literal open and have the value of the text. -/
theorem read_joined (passage : Passage tag) :
    (∀ line ∈ Text.lines passage.text.toList, openTail? line = none) ∧
      ∃ value, Json.read passage.text.toList = .ok value ∧
        Json.read passage.joined = .ok value ∧ Decode.entry value = .ok passage.entry := by
  obtain ⟨value, hread, hentry⟩ := entryOfText_eq_ok_iff.mp passage.entry_eq
  obtain ⟨hopen, hjoined⟩ := Json.read_lines hread
  exact ⟨hopen, value, hread, hjoined, hentry⟩

theorem entryOfText_joined (passage : Passage tag) :
    entryOfText (String.ofList passage.joined) = .ok passage.entry := by
  obtain ⟨-, value, -, hjoined, hentry⟩ := passage.read_joined
  rw [entryOfText_eq_ok_iff, String.toList_ofList]
  exact ⟨value, hjoined, hentry⟩

theorem bodyText_eq (passage : Passage tag) :
    bodyText (Text.lines passage.text.toList) = passage.joined :=
  bodyText_of_not_open passage.read_joined.1

/-- Passages behind lines without markers are cut into their regions. -/
theorem exists_decomposition (htag : tag ≠ []) (hblank : ¬ tag.any Text.isBlank)
    (passages : List (Passage tag)) (number : Nat) {before : List (List Char)}
    (hbefore : ∀ line ∈ before, afterMarker? tag line = none) :
    ∃ found, Scan.Decomposition tag number (before ++ passages.flatMap (·.lines)) found ∧
      found.regions.map (·.text) = passages.map (String.ofList ·.joined) := by
  induction passages generalizing number before with
  | nil => exact ⟨⟨[], none⟩, .unmarked (by simpa using hbefore), rfl⟩
  | cons passage passages ih =>
    have hmarker := afterMarker?_markerLine htag hblank
    have hopen : ¬ closer <:+: [] := by decide
    let length := (Text.lines passage.text.toList).length
    obtain ⟨found, hfound, htexts⟩ := ih (number + before.length + length + 2) passage.unmarked
    have hlines : before ++ (passage :: passages).flatMap (·.lines) =
        before ++ markerLine tag :: (Text.lines passage.text.toList ++
          closer :: (passage.gap ++ passages.flatMap (·.lines))) := by
      simp only [List.flatMap_cons, lines, List.cons_append, List.append_assoc]
    have hregion := Scan.Decomposition.closed hbefore hmarker hopen passage.not_closed
      List.infix_rfl hfound
    rw [hlines]
    refine ⟨_, hregion, ?_⟩
    simp only [List.map_cons, bodyText_eq, htexts]

theorem readDescriptors_eq {passages : List (Passage tag)} {descriptors : List Descriptor}
    (h : descriptors.map (·.text) = passages.map (String.ofList ·.joined)) :
    readDescriptors descriptors = ⟨passages.map (·.entry), none⟩ := by
  induction passages generalizing descriptors with
  | nil =>
    obtain rfl := List.map_eq_nil_iff.mp h
    rfl
  | cons passage passages ih =>
    obtain ⟨descriptor, rest, rfl, htext, hrest⟩ := List.map_eq_cons_iff.mp h
    have hentry : descriptor.entry = .ok passage.entry := by
      rw [Descriptor.entry, htext, passage.entryOfText_joined]
      rfl
    simp only [readDescriptors, hentry, ih hrest, List.map_cons]

end Passage

/-- A source that consists of passages, and of lines without markers before, between
and behind them, is built into the reference of their entries. Their lines leave no
literal open; joined, they are the descriptors, and are read as the texts are. -/
theorem build_passages {tag source : String} {before : List (List Char)}
    {passages : List (Passage tag.toList)} (htag : tag ≠ "")
    (hblank : ¬ tag.toList.any Text.isBlank)
    (hbefore : ∀ line ∈ before, afterMarker? tag.toList line = none)
    (hlines : Text.lines source.toList = before ++ passages.flatMap (·.lines)) :
    (build tag source).result =
        .ok (passages.length, (arrange (passages.map (·.entry))).reference) ∧
      (generate tag source).result =
        .ok (arrange (passages.map (·.entry))).reference.markdown ∧
      (scan tag source).descriptors.map (·.text) = passages.map (String.ofList ·.joined) ∧
      ∀ passage ∈ passages,
        (∀ line ∈ Text.lines passage.text.toList, openTail? line = none) ∧
          ∃ value, Json.read passage.text.toList = .ok value ∧
            Json.read passage.joined = .ok value ∧ Decode.entry value = .ok passage.entry := by
  have hnonempty : tag.toList ≠ [] := by simpa using htag
  obtain ⟨found, hfound, htexts⟩ :=
    Passage.exists_decomposition hnonempty hblank passages 1 hbefore
  have hscan : scan tag source = found := by
    rw [scan, hlines]
    exact hfound.ofLines_eq
  have hdescriptors : (scan tag source).descriptors.map (·.text) =
      passages.map (String.ofList ·.joined) := by
    rw [hscan, Scan.descriptors, List.map_map]
    exact htexts
  have hreading := Passage.readDescriptors_eq hdescriptors
  have hlength : (scan tag source).regions.length = passages.length := by
    have hmap := congrArg List.length htexts
    simpa only [hscan, List.length_map] using hmap
  have hbuild : (build tag source).result =
      .ok (passages.length, (arrange (passages.map (·.entry))).reference) := by
    simp only [build, survey, hreading, hlength]
    rfl
  refine ⟨hbuild, ?_, hdescriptors, ?_⟩
  · simp only [generate, hbuild]
    rfl
  · intro passage _
    exact passage.read_joined

/-- A class and a function between other lines. -/
def chainSource : String :=
  "// two descriptors\n/* @doc\r\n\x7b\"class\":\r\n \"Chain\"\r\n\x7d\r\n*/\n" ++
    "int x; /* note */\n/* @doc\n" ++
    "\x7b\"name\":\n\"push\",\n\n\"args\": [[\"value\",\n\"int\"]]\n\x7d\n*/"

def classPassage : Passage "@doc".toList where
  text := "\x7b\"class\":\r\n \"Chain\"\r\n\x7d"
  entry := .ofClass ⟨"Chain", none, none⟩
  gap := ["int x; /* note */".toList]
  entry_eq := rfl
  not_closed := by decide +kernel
  unmarked := by decide +kernel

def functionPassage : Passage "@doc".toList where
  text := "\x7b\"name\":\n\"push\",\n\n\"args\": [[\"value\",\n\"int\"]]\n\x7d"
  entry := .ofFunction ⟨"push", [⟨"value", "int", ""⟩], none, none, none, ""⟩
  gap := []
  entry_eq := rfl
  not_closed := by decide +kernel
  unmarked := by decide +kernel

theorem build_passages_chain :
    Text.lines chainSource.toList =
        ["// two descriptors".toList] ++ [classPassage, functionPassage].flatMap (·.lines) ∧
      (build "@doc" chainSource).result =
        .ok (2, ⟨some ⟨"Chain", none, none⟩,
          [⟨"push", [⟨"value", "int", ""⟩], none, none, none, ""⟩]⟩) ∧
      (scan "@doc" chainSource).descriptors.map (·.text) =
        ["\x7b\"class\": \"Chain\"\x7d",
          "\x7b\"name\":\"push\",\"args\": [[\"value\",\"int\"]]\x7d"] := by
  have hlines : Text.lines chainSource.toList =
      ["// two descriptors".toList] ++ [classPassage, functionPassage].flatMap (·.lines) := by
    decide +kernel
  obtain ⟨hbuild, -, htexts, -⟩ :=
    build_passages (by decide) (by decide +kernel) (by decide +kernel) hlines
  refine ⟨hlines, ?_, ?_⟩
  · rw [hbuild]
    rfl
  · rw [htexts]
    decide +kernel

end DocBlocks
