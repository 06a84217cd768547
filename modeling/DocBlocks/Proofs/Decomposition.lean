import DocBlocks.Event
import DocBlocks.Proofs.Scanning

/-!
The regions of a source, told without a scan. The first line with a marker
begins one; it ends on that line if the closer follows the marker there, and
otherwise on the next line with a closer. The lines behind it are cut up in the
same way. The rules determine the regions, and the scan finds just these.
-/
namespace DocBlocks

namespace Region

/-- The text that the lines of a body add up to. -/
def bodyText (body : List (List Char)) : List Char := (bodyEnd false body).written

/-- The lines in order, each followed by nothing or by the escape of a line break. -/
def Joins (lines : List (List Char)) (text : List Char) : Prop :=
  ∃ endings : List (List Char), endings.length = lines.length ∧
    (∀ ending ∈ endings, ending = [] ∨ ending = lineBreak) ∧
    text = (List.zipWith (· ++ ·) lines endings).flatten

theorem written_endOutside (fragment : List Char) :
    (endOutside fragment).written = [] ∨ (endOutside fragment).written = lineBreak := by
  unfold endOutside
  split
  · split
    · split
      · exact Or.inl rfl
      · exact Or.inr rfl
    · exact Or.inl rfl
  · exact Or.inl rfl

theorem written_lineEnd (longText : Bool) (line : List Char) :
    (lineEnd longText line).written = [] ∨ (lineEnd longText line).written = lineBreak := by
  unfold lineEnd
  split
  · split
    · exact written_endOutside _
    · exact Or.inr rfl
  · exact written_endOutside _

theorem joins_bodyEnd (longText : Bool) (body : List (List Char)) :
    Joins body (bodyEnd longText body).written := by
  induction body generalizing longText with
  | nil => exact ⟨[], rfl, by simp, rfl⟩
  | cons line body ih =>
    obtain ⟨endings, hlength, hendings, htext⟩ := ih (lineEnd longText line).longText
    refine ⟨(lineEnd longText line).written :: endings, ?_, ?_, ?_⟩
    · simp only [List.length_cons, hlength]
    · intro ending hmem
      rcases List.mem_cons.mp hmem with rfl | hmem
      · exact written_lineEnd longText line
      · exact hendings ending hmem
    · simp only [bodyEnd, htext, List.zipWith_cons_cons, List.flatten_cons]

/-- What stands, trimmed, between the marker of a line and the first closer behind it. -/
def oneLineText (tag line : List Char) : List Char :=
  match (afterMarker? tag line).bind (Text.before? closer) with
  | some front => Text.trim front
  | none => []

/-- The text of a region that takes up some lines, the marker's and the closer's included. -/
def spanText (tag : List Char) : List (List Char) → List Char
  | [] => []
  | [line] => oneLineText tag line
  | _ :: rest => bodyText rest.dropLast

theorem spanText_closed (tag line : List Char) (body : List (List Char)) (closing : List Char) :
    spanText tag (line :: (body ++ [closing])) = bodyText body := by
  cases body with
  | nil => rfl
  | cons first body =>
    change bodyText (first :: (body ++ [closing])).dropLast = bodyText (first :: body)
    rw [← List.cons_append, List.dropLast_concat]

/-- A region has its text from the lines between its first and its last one,
these included, and from no other of the lines. -/
def MadeOf (tag : List Char) (number : Nat) (lines : List (List Char)) (region : Region) : Prop :=
  ∃ before span after, lines = before ++ span ++ after ∧ span ≠ [] ∧
    region.line = number + before.length ∧ region.lastLine + 1 = region.line + span.length ∧
    region.text = String.ofList (spanText tag span)

theorem MadeOf.first_le_last {tag : List Char} {number : Nat} {lines : List (List Char)}
    {region : Region} (h : region.MadeOf tag number lines) :
    number ≤ region.line ∧ region.line ≤ region.lastLine := by
  obtain ⟨before, span, after, -, hspan, hline, hlast, -⟩ := h
  have hlength : 0 < span.length := List.length_pos_iff.mpr hspan
  omega

/-- Lines in front of the others only shift the numbers. -/
theorem MadeOf.append_left {tag : List Char} {number : Nat} {lines : List (List Char)}
    {region : Region} (front : List (List Char))
    (h : region.MadeOf tag (number + front.length) lines) :
    region.MadeOf tag number (front ++ lines) := by
  obtain ⟨before, span, after, hlines, hspan, hline, hlast, htext⟩ := h
  refine ⟨front ++ before, span, after, ?_, hspan, ?_, hlast, htext⟩
  · simp only [hlines, List.append_assoc]
  · simp only [List.length_append]
    omega

end Region

namespace Scan

open Region

/-- How lines, of which the first has a number, are cut into regions. -/
inductive Decomposition (tag : List Char) : Nat → List (List Char) → Scan → Prop
  | unmarked {number : Nat} {lines : List (List Char)}
      (hlines : ∀ line ∈ lines, afterMarker? tag line = none) :
      Decomposition tag number lines ⟨[], none⟩
  | oneLine {number : Nat} {front rest : List (List Char)} {line tail text : List Char}
      {found : Scan}
      (hfront : ∀ l ∈ front, afterMarker? tag l = none)
      (hmarker : afterMarker? tag line = some tail)
      (hclose : Text.IsBefore closer tail text)
      (hrest : Decomposition tag (number + front.length + 1) rest found) :
      Decomposition tag number (front ++ line :: rest)
        ⟨⟨⟨number + front.length, String.ofList (Text.trim text)⟩, number + front.length⟩ ::
          found.regions, found.unclosed⟩
  | closed {number : Nat} {front body rest : List (List Char)} {line tail closing : List Char}
      {found : Scan}
      (hfront : ∀ l ∈ front, afterMarker? tag l = none)
      (hmarker : afterMarker? tag line = some tail)
      (hopen : ¬ closer <:+: tail)
      (hbody : ∀ l ∈ body, ¬ closer <:+: l)
      (hclosing : closer <:+: closing)
      (hrest : Decomposition tag (number + front.length + body.length + 2) rest found) :
      Decomposition tag number (front ++ line :: (body ++ closing :: rest))
        ⟨⟨⟨number + front.length, String.ofList (bodyText body)⟩,
            number + front.length + body.length + 1⟩ :: found.regions, found.unclosed⟩
  | unclosed {number : Nat} {front body : List (List Char)} {line tail : List Char}
      (hfront : ∀ l ∈ front, afterMarker? tag l = none)
      (hmarker : afterMarker? tag line = some tail)
      (hopen : ¬ closer <:+: tail)
      (hbody : ∀ l ∈ body, ¬ closer <:+: l) :
      Decomposition tag number (front ++ line :: body) ⟨[], some (number + front.length)⟩

variable {tag : List Char} {number : Nat} {lines : List (List Char)} {found : Scan}

theorem Decomposition.ofLines_eq (h : Decomposition tag number lines found) :
    ofLines tag .outside number lines = found := by
  induction h with
  | @unmarked number lines hlines =>
    have hrun : ofLines tag .outside number (lines ++ []) = ⟨[], none⟩ :=
      ofLines_unmarked hlines
    rwa [List.append_nil] at hrun
  | oneLine hfront hmarker hclose _ ih =>
    rw [ofLines_unmarked hfront, ofLines_cons,
      Mode.step_oneLine hmarker (Text.before?_eq_some_iff.mpr hclose), ih]
    rfl
  | @closed number front body _ _ _ _ _ hfront hmarker hopen hbody hclosing _ ih =>
    have hnumber : number + front.length + 1 + body.length =
        number + front.length + body.length + 1 := by omega
    rw [ofLines_unmarked hfront, ofLines_cons, Mode.step_opening hmarker hopen,
      ofLines_body hbody, ofLines_cons, Mode.step_closing hclosing, hnumber, ih]
    simp only [bodyText, String.empty_append, Option.toList_none, Option.toList_some,
      List.nil_append, List.singleton_append]
  | @unclosed number front body _ _ hfront hmarker hopen hbody =>
    have hrun : ofLines tag (.inside (number + front.length) "" false)
        (number + front.length + 1) (body ++ []) = ⟨[], some (number + front.length)⟩ :=
      ofLines_body hbody
    rw [List.append_nil] at hrun
    rw [ofLines_unmarked hfront, ofLines_cons, Mode.step_opening hmarker hopen, hrun]
    rfl

theorem ofLines_region {line tail closing : List Char} {body : List (List Char)}
    (hmarker : afterMarker? tag line = some tail) (hopen : ¬ closer <:+: tail)
    (hbody : ∀ l ∈ body, ¬ closer <:+: l) (hclosing : closer <:+: closing) :
    ofLines tag .outside number (line :: (body ++ [closing])) =
      ⟨[⟨⟨number, String.ofList (bodyText body)⟩, number + body.length + 1⟩], none⟩ :=
  (@Decomposition.closed tag number [] body [] line tail closing _ (by simp) hmarker hopen hbody
    hclosing (.unmarked (by simp))).ofLines_eq

/-- All lines have a decomposition, found by the first marker and the first
closer behind it; the lines left over are fewer. -/
theorem exists_decomposition (tag : List Char) (number : Nat) (lines : List (List Char)) :
    ∃ found, Decomposition tag number lines found := by
  induction hlength : lines.length using Nat.strongRecOn generalizing number lines with
  | ind n ih =>
    cases hmarked : lines.find? (fun line => (afterMarker? tag line).isSome) with
    | none =>
      refine ⟨⟨[], none⟩, .unmarked ?_⟩
      intro line hline
      simpa using List.find?_eq_none.mp hmarked line hline
    | some line =>
      obtain ⟨hline, front, rest, rfl, hbefore⟩ := List.find?_eq_some_iff_append.mp hmarked
      obtain ⟨tail, hmarker⟩ := Option.isSome_iff_exists.mp hline
      have hfront : ∀ l ∈ front, afterMarker? tag l = none := by
        intro l hl
        simpa using hbefore l hl
      simp only [List.length_append, List.length_cons] at hlength
      by_cases hopen : closer <:+: tail
      · obtain ⟨text, htext⟩ := Option.isSome_iff_exists.mp (Text.occursIn_iff.mpr hopen)
        obtain ⟨found, hfound⟩ :=
          ih rest.length (by omega) (number + front.length + 1) rest rfl
        exact ⟨_, .oneLine hfront hmarker (Text.before?_eq_some_iff.mp htext) hfound⟩
      · cases hclosed : rest.find? (Text.occursIn closer) with
        | none =>
          refine ⟨_, .unclosed hfront hmarker hopen ?_⟩
          intro l hl hclose
          exact List.find?_eq_none.mp hclosed l hl (Text.occursIn_iff.mpr hclose)
        | some closing =>
          obtain ⟨hclosing, body, later, rfl, hbefore⟩ :=
            List.find?_eq_some_iff_append.mp hclosed
          have hbody : ∀ l ∈ body, ¬ closer <:+: l := by
            intro l hl hclose
            have hnot := hbefore l hl
            rw [Text.occursIn_iff.mpr hclose] at hnot
            exact absurd hnot (by decide)
          simp only [List.length_append, List.length_cons] at hlength
          obtain ⟨found, hfound⟩ := ih later.length (by omega)
            (number + front.length + body.length + 2) later rfl
          exact ⟨_, .closed hfront hmarker hopen hbody (Text.occursIn_iff.mp hclosing) hfound⟩

theorem decomposition_iff_eq_ofLines :
    Decomposition tag number lines found ↔ found = ofLines tag .outside number lines := by
  constructor
  · intro h
    exact h.ofLines_eq.symm
  · rintro rfl
    obtain ⟨other, hother⟩ := exists_decomposition tag number lines
    rw [hother.ofLines_eq]
    exact hother

theorem Decomposition.madeOf (h : Decomposition tag number lines found) :
    ∀ region ∈ found.regions, region.MadeOf tag number lines := by
  induction h with
  | unmarked _ => simp
  | @oneLine number front rest line tail text found hfront hmarker hclose _ ih =>
    intro region hmem
    rcases List.mem_cons.mp hmem with rfl | hmem
    · refine ⟨front, [line], rest, by simp, by simp, rfl, rfl, ?_⟩
      simp only [spanText, oneLineText, hmarker, Option.bind_some,
        Text.before?_eq_some_iff.mpr hclose]
    · have hlater : region.MadeOf tag (number + (front ++ [line]).length) rest := by
        simpa [Nat.add_assoc] using ih region hmem
      simpa using hlater.append_left
  | @closed number front body rest line tail closing found hfront hmarker hopen hbody
      hclosing _ ih =>
    intro region hmem
    rcases List.mem_cons.mp hmem with rfl | hmem
    · refine ⟨front, line :: (body ++ [closing]), rest, by simp, by simp, rfl, ?_, ?_⟩
      · simp only [List.length_cons, List.length_append, List.length_nil]
        omega
      · rw [spanText_closed]
    · have hlater : region.MadeOf tag (number + (front ++ line :: (body ++ [closing])).length)
          rest := by
        simpa [Nat.add_assoc] using ih region hmem
      simpa using hlater.append_left
  | unclosed _ _ _ _ => simp

theorem Decomposition.le_unclosed (h : Decomposition tag number lines found) :
    ∀ opened ∈ found.unclosed, number ≤ opened := by
  induction h with
  | unmarked _ => simp
  | oneLine _ _ _ _ ih =>
    intro opened hmem
    have hle := ih opened hmem
    omega
  | closed _ _ _ _ _ _ ih =>
    intro opened hmem
    have hle := ih opened hmem
    omega
  | unclosed _ _ _ _ => simp

/-- The regions follow one another, and the one left open follows them all. -/
def Ordered (found : Scan) : Prop :=
  found.regions.Pairwise (fun a b => a.lastLine < b.line) ∧
    ∀ opened ∈ found.unclosed, ∀ region ∈ found.regions, region.lastLine < opened

theorem Decomposition.ordered_cons {region : Region} (h : Decomposition tag number lines found)
    (hordered : found.Ordered) (hlast : region.lastLine < number) :
    Ordered ⟨region :: found.regions, found.unclosed⟩ := by
  obtain ⟨hpairwise, hopened⟩ := hordered
  constructor
  · refine List.pairwise_cons.mpr ⟨?_, hpairwise⟩
    intro later hlater
    have hfirst := (h.madeOf later hlater).first_le_last
    omega
  · intro opened hmem other hother
    rcases List.mem_cons.mp hother with rfl | hother
    · exact Nat.lt_of_lt_of_le hlast (h.le_unclosed opened hmem)
    · exact hopened opened hmem other hother

theorem Decomposition.ordered (h : Decomposition tag number lines found) : found.Ordered := by
  induction h with
  | unmarked _ => simp [Ordered]
  | oneLine _ _ _ hrest ih => exact hrest.ordered_cons ih (Nat.lt_succ_self _)
  | closed _ _ _ _ _ hrest ih => exact hrest.ordered_cons ih (Nat.lt_succ_self _)
  | unclosed _ _ _ _ => simp [Ordered]

theorem warnings_events (found : Scan) :
    found.events.filter (·.isWarning) = found.unclosed.toList.map .regionUnclosed := by
  have hregions : (found.regions.flatMap Region.events).filter (·.isWarning) = [] := by
    rw [List.filter_eq_nil_iff]
    intro event hevent
    obtain ⟨region, -, hregion⟩ := List.mem_flatMap.mp hevent
    unfold Region.events at hregion
    split at hregion
    · rw [List.mem_singleton.mp hregion]
      exact Bool.false_ne_true
    · rcases List.mem_pair.mp hregion with rfl | rfl
      · exact Bool.false_ne_true
      · exact Bool.false_ne_true
  cases hunclosed : found.unclosed with
  | none => simp only [events, hunclosed, List.filter_append, hregions]; rfl
  | some opened => simp only [events, hunclosed, List.filter_append, hregions]; rfl

/-- The scan of a source is the one decomposition of its lines, and the descriptors of the
source are those of its regions. The scan warns of nothing but the region left open; its
regions stand one after the other, and none has a character of its text from a line of
another. -/
theorem scan_iff_decomposition (tag source : String) :
    (∀ found, Decomposition tag.toList 1 (Text.lines source.toList) found ↔
      found = scan tag source) ∧
    (∀ found, Decomposition tag.toList 1 (Text.lines source.toList) found →
      (scan tag source).descriptors = found.regions.map Region.toDescriptor) ∧
    (∀ line tail, afterMarker? tag.toList line = some tail → tail <:+ line) ∧
    (∀ body, Joins body (bodyText body)) ∧
    ((scan tag source).events.filter (·.isWarning)).map (·.text) =
      (scan tag source).unclosed.toList.map (fun line =>
        "Descriptor region opened at line " ++ toString line ++
          " is never closed; discarding it") ∧
    ((scan tag source).descriptors.map (·.line)).Pairwise (· < ·) ∧
    (scan tag source).Ordered ∧
    ∀ region ∈ (scan tag source).regions,
      region.MadeOf tag.toList 1 (Text.lines source.toList) := by
  have hscan : Decomposition tag.toList 1 (Text.lines source.toList) (scan tag source) :=
    decomposition_iff_eq_ofLines.mpr rfl
  have hspans := hscan.madeOf
  have hordered := hscan.ordered
  refine ⟨fun found => decomposition_iff_eq_ofLines, ?_,
    fun line tail => suffix_of_afterMarker?, fun body => joins_bodyEnd false body, ?_, ?_,
    hordered, hspans⟩
  · intro found hfound
    rw [decomposition_iff_eq_ofLines.mp hfound]
    rfl
  · rw [warnings_events, List.map_map]
    rfl
  · rw [descriptors, List.map_map, List.pairwise_map]
    refine hordered.1.imp_of_mem ?_
    intro a b ha _ hab
    exact Nat.lt_of_le_of_lt (hspans a ha).first_le_last.2 hab

end Scan
end DocBlocks
