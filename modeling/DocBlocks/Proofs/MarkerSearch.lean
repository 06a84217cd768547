import DocBlocks.Proofs.ByteOrder
import DocBlocks.Proofs.Embedding

/-!
Which marker of a line is found. A marker is a comment opener, all the blanks behind it and
the tag as a whole word; of all that stand in the line the search finds the leftmost, and
the end of its tag is told as an offset in bytes.
-/
namespace DocBlocks

namespace Text

theorem length_bytes (text : String) : (bytes text).length = text.utf8ByteSize := by
  rw [bytes, Array.length_toList, ← String.size_toByteArray]
  rfl

theorem bytes_append (front back : List Char) :
    bytes (String.ofList (front ++ back)) =
      bytes (String.ofList front) ++ bytes (String.ofList back) := by
  simp only [bytes_eq_flatMap, String.toList_ofList, List.flatMap_append]

end Text

namespace Region

/-- A marker in a line, with what stands before it and behind it. -/
structure Marker (tag line : List Char) where
  front : List Char
  blanks : List Char
  tail : List Char
  line_eq : line = front ++ (opener ++ (blanks ++ (tag ++ tail)))
  blank : ∀ c ∈ blanks, Text.isBlank c = true
  skipped : ∀ c ∈ (tag ++ tail).head?, Text.isBlank c = false
  whole : ∀ c ∈ tail.head?, Text.isAlphanumeric c = false ∧ c ≠ '_'

/-- The offset just past the tag of the first marker. -/
def markerEnd? (tag line : String) : Option Nat :=
  (afterMarker? tag.toList line.toList).map fun tail =>
    line.utf8ByteSize - (String.ofList tail).utf8ByteSize

theorem continuesWord_eq_false_iff {text : List Char} :
    continuesWord text = false ↔ ∀ c ∈ text.head?, Text.isAlphanumeric c = false ∧ c ≠ '_' := by
  cases text with
  | nil => simp [continuesWord]
  | cons c rest => simp [continuesWord, Text.isWordChar]

namespace Marker

variable {tag line rest : List Char}

def upTo (marker : Marker tag line) : List Char :=
  marker.front ++ (opener ++ (marker.blanks ++ tag))

/-- The offset in bytes just past the tag. -/
def stop (marker : Marker tag line) : Nat := (String.ofList marker.upTo).utf8ByteSize

/-- No marker of the line begins further left. -/
def IsFirst (marker : Marker tag line) : Prop :=
  ∀ other : Marker tag line, marker.front.length ≤ other.front.length

theorem upTo_append (marker : Marker tag line) : marker.upTo ++ marker.tail = line := by
  simp only [upTo, List.append_assoc]
  exact marker.line_eq.symm

def behind (c : Char) (marker : Marker tag rest) : Marker tag (c :: rest) where
  front := c :: marker.front
  blanks := marker.blanks
  tail := marker.tail
  line_eq := congrArg (List.cons c) marker.line_eq
  blank := marker.blank
  skipped := marker.skipped
  whole := marker.whole

theorem afterTag?_eq (marker : Marker tag line) :
    ∃ text, line = marker.front ++ (opener ++ text) ∧ afterTag? tag text = some marker.tail := by
  refine ⟨marker.blanks ++ (tag ++ marker.tail), marker.line_eq, ?_⟩
  rw [afterTag?_eq_some_iff, continuesWord_eq_false_iff]
  have htrim := Text.trimStart_eq_iff.mpr ⟨marker.blanks, rfl, marker.blank, marker.skipped⟩
  exact ⟨htrim.symm, marker.whole⟩

theorem exists_of_afterTag? {text tail : List Char} (h : afterTag? tag text = some tail) :
    ∃ marker : Marker tag (opener ++ text), marker.front = [] ∧ marker.tail = tail := by
  rw [afterTag?_eq_some_iff, continuesWord_eq_false_iff] at h
  obtain ⟨htrim, hwhole⟩ := h
  obtain ⟨blanks, htext, hblank, hskipped⟩ := Text.trimStart_eq_iff.mp htrim.symm
  have hline : opener ++ text = [] ++ (opener ++ (blanks ++ (tag ++ tail))) := by
    rw [htext, List.nil_append]
  exact ⟨⟨[], blanks, tail, hline, hblank, hskipped, hwhole⟩, rfl, rfl⟩

/-- Markers that begin at one place have the same text behind them. -/
theorem tail_eq_of_length {marker other : Marker tag line}
    (h : marker.front.length = other.front.length) : marker.tail = other.tail := by
  obtain ⟨text, hline, htail⟩ := marker.afterTag?_eq
  obtain ⟨otherText, hother, hotherTail⟩ := other.afterTag?_eq
  obtain ⟨-, hbehind⟩ := List.append_inj (hline.symm.trans hother) h
  have hsame : text = otherText := List.append_cancel_left hbehind
  rw [hsame] at htail
  exact Option.some.inj (htail.symm.trans hotherTail)

theorem exists_behind {c : Char} {marker : Marker tag (c :: rest)} (h : marker.front ≠ []) :
    ∃ later : Marker tag rest, marker = later.behind c := by
  obtain ⟨front, blanks, tail, hline, hblank, hskipped, hwhole⟩ := marker
  cases front with
  | nil => exact absurd rfl h
  | cons d front =>
    obtain ⟨hd, hrest⟩ := List.cons.inj hline
    subst hd
    exact ⟨⟨front, blanks, tail, hrest, hblank, hskipped, hwhole⟩, rfl⟩

/-- What a search is to find: what stands behind the first marker, or nothing if there is
no marker. -/
def Found (tag line : List Char) : Option (List Char) → Prop
  | none => IsEmpty (Marker tag line)
  | some tail => ∃ marker : Marker tag line, marker.IsFirst ∧ marker.tail = tail

theorem Found.behind {c : Char} {result : Option (List Char)} (h : Found tag rest result)
    (hnone : ∀ marker : Marker tag (c :: rest), marker.front ≠ []) :
    Found tag (c :: rest) result := by
  cases result with
  | none =>
    constructor
    intro marker
    obtain ⟨later, -⟩ := exists_behind (hnone marker)
    exact h.false later
  | some tail =>
    obtain ⟨marker, hfirst, htail⟩ := h
    refine ⟨marker.behind c, ?_, htail⟩
    intro other
    obtain ⟨later, hlater⟩ := exists_behind (hnone other)
    have hle := hfirst later
    rw [hlater]
    simp only [Marker.behind, List.length_cons]
    omega

theorem front_ne_nil_of_not_opener (h : ¬ opener <+: line) (marker : Marker tag line) :
    marker.front ≠ [] := by
  intro hfront
  obtain ⟨text, hline, -⟩ := marker.afterTag?_eq
  rw [hfront, List.nil_append] at hline
  exact h ⟨text, hline.symm⟩

theorem front_ne_nil_of_afterTag? {text : List Char} (h : afterTag? tag text = none)
    (marker : Marker tag (opener ++ text)) : marker.front ≠ [] := by
  intro hfront
  obtain ⟨other, hline, htail⟩ := marker.afterTag?_eq
  rw [hfront, List.nil_append] at hline
  rw [← List.append_cancel_left hline, h] at htail
  cases htail

/-- The search goes on behind an opener that is none of a marker, and passes over all else;
so it stops at the first marker. -/
theorem found_findMarker? (tag text : List Char) : Found tag text (findMarker? tag text) := by
  fun_induction findMarker? tag text with
  | case1 =>
    constructor
    intro marker
    have hlength := congrArg List.length marker.line_eq
    simp only [opener, List.length_append, List.length_cons, List.length_nil] at hlength
    omega
  | case2 rest ih =>
    cases htag : afterTag? tag rest with
    | some tail =>
      obtain ⟨marker, hfront, htail⟩ := exists_of_afterTag? htag
      refine ⟨marker, ?_, htail⟩
      intro other
      rw [hfront]
      exact Nat.zero_le _
    | none =>
      rw [Option.none_or]
      have hstar : ¬ opener <+: '*' :: rest := by
        intro hopener
        exact absurd (List.cons_prefix_cons.mp hopener).1 (by decide)
      have hbehind := ih.behind (front_ne_nil_of_not_opener hstar)
      exact hbehind.behind (front_ne_nil_of_afterTag? htag)
  | case3 c rest hother ih =>
    apply ih.behind
    apply front_ne_nil_of_not_opener
    intro hopener
    obtain ⟨later, hlater⟩ := hopener
    obtain ⟨hc, hrest⟩ := List.cons.inj hlater
    exact hother later hc.symm hrest.symm

theorem exists_first (h : Nonempty (Marker tag line)) :
    ∃ marker : Marker tag line, marker.IsFirst := by
  have hfound := found_findMarker? tag line
  cases hresult : findMarker? tag line with
  | none =>
    rw [hresult] at hfound
    obtain ⟨marker⟩ := h
    exact (hfound.false marker).elim
  | some tail =>
    rw [hresult] at hfound
    obtain ⟨marker, hfirst, -⟩ := hfound
    exact ⟨marker, hfirst⟩

theorem stop_eq (marker : Marker tag line) :
    marker.stop =
      (String.ofList line).utf8ByteSize - (String.ofList marker.tail).utf8ByteSize := by
  have hbytes := congrArg List.length (Text.bytes_append marker.upTo marker.tail)
  rw [marker.upTo_append, List.length_append] at hbytes
  simp only [Text.length_bytes] at hbytes
  rw [stop]
  omega

theorem bytes_drop_stop (marker : Marker tag line) :
    (Text.bytes (String.ofList line)).drop marker.stop =
      Text.bytes (String.ofList marker.tail) := by
  rw [stop, ← Text.length_bytes, ← congrArg String.ofList marker.upTo_append,
    Text.bytes_append]
  exact List.drop_left

end Marker

theorem afterMarker?_eq_some_iff {tag line tail : List Char} :
    afterMarker? tag line = some tail ↔
      tag ≠ [] ∧ ∃ marker : Marker tag line, marker.IsFirst ∧ marker.tail = tail := by
  unfold afterMarker?
  by_cases htag : tag = []
  · rw [if_pos htag]
    simp [htag]
  · rw [if_neg htag]
    have hfound := Marker.found_findMarker? tag line
    constructor
    · intro h
      rw [h] at hfound
      exact ⟨htag, hfound⟩
    · intro h
      obtain ⟨-, marker, hfirst, htail⟩ := h
      cases hresult : findMarker? tag line with
      | none =>
        rw [hresult] at hfound
        exact (hfound.false marker).elim
      | some other =>
        rw [hresult] at hfound
        obtain ⟨first, hother, hotherTail⟩ := hfound
        have hplace : first.front.length = marker.front.length :=
          Nat.le_antisymm (hother marker) (hfirst first)
        rw [← htail, ← hotherTail, Marker.tail_eq_of_length hplace]

variable {tag line : String}

theorem Marker.stop_eq_sub (marker : Marker tag.toList line.toList) :
    marker.stop = line.utf8ByteSize - (String.ofList marker.tail).utf8ByteSize := by
  rw [marker.stop_eq, String.ofList_toList]

theorem markerEnd?_iff_first (stop : Nat) :
    markerEnd? tag line = some stop ↔
      tag ≠ "" ∧ ∃ marker : Marker tag.toList line.toList,
        marker.IsFirst ∧ marker.stop = stop := by
  have htag : tag.toList ≠ [] ↔ tag ≠ "" := by simp
  rw [markerEnd?, Option.map_eq_some_iff, ← htag]
  constructor
  · intro h
    obtain ⟨tail, hmarker, hsize⟩ := h
    obtain ⟨hnonempty, marker, hfirst, htail⟩ := afterMarker?_eq_some_iff.mp hmarker
    exact ⟨hnonempty, marker, hfirst, by rw [marker.stop_eq_sub, htail, hsize]⟩
  · intro h
    obtain ⟨hnonempty, marker, hfirst, hsize⟩ := h
    have hmarker := afterMarker?_eq_some_iff.mpr ⟨hnonempty, marker, hfirst, rfl⟩
    exact ⟨marker.tail, hmarker, by rw [← marker.stop_eq_sub, hsize]⟩

theorem exists_markerEnd?_iff :
    (∃ stop, markerEnd? tag line = some stop) ↔
      tag ≠ "" ∧ Nonempty (Marker tag.toList line.toList) := by
  constructor
  · intro h
    obtain ⟨stop, hfound⟩ := h
    obtain ⟨hnonempty, marker, -⟩ := (markerEnd?_iff_first stop).mp hfound
    exact ⟨hnonempty, ⟨marker⟩⟩
  · intro h
    obtain ⟨hnonempty, hmarker⟩ := h
    obtain ⟨first, hfirst⟩ := Marker.exists_first hmarker
    exact ⟨first.stop, (markerEnd?_iff_first _).mpr ⟨hnonempty, first, hfirst, rfl⟩⟩

theorem drop_markerEnd? {tail : List Char}
    (h : afterMarker? tag.toList line.toList = some tail) :
    ∃ stop, markerEnd? tag line = some stop ∧
      (Text.bytes line).drop stop = Text.bytes (String.ofList tail) := by
  obtain ⟨-, marker, -, htail⟩ := afterMarker?_eq_some_iff.mp h
  refine ⟨marker.stop, ?_, ?_⟩
  · rw [markerEnd?, h, Option.map_some, marker.stop_eq_sub, htail]
  · rw [← htail, ← marker.bytes_drop_stop, String.ofList_toList]

end Region

open Region

/-- The first marker of a line is found, and its end told as an offset in bytes, exactly
where there is any; behind that offset the line goes on with the text that a region on the
line is taken from. Without a tag there is no marker. -/
theorem markerEnd?_eq_some_iff (tag line : String) :
    (∀ stop, markerEnd? tag line = some stop ↔
        tag ≠ "" ∧ ∃ marker : Marker tag.toList line.toList,
          marker.IsFirst ∧ marker.stop = stop) ∧
      ((∃ stop, markerEnd? tag line = some stop) ↔
        tag ≠ "" ∧ Nonempty (Marker tag.toList line.toList)) ∧
      ∀ tail, afterMarker? tag.toList line.toList = some tail →
        ∃ stop, markerEnd? tag line = some stop ∧
          (Text.bytes line).drop stop = Text.bytes (String.ofList tail) := by
  refine ⟨markerEnd?_iff_first, exists_markerEnd?_iff, ?_⟩
  intro tail h
  exact drop_markerEnd? h

/-- Openers behind which the tag does not stand, or runs on, do not hide the one behind. -/
example : markerEnd? "doc" "é /*/* docs /*/ /*\u3000doc*/" = some 25 := by decide +kernel

/-- A tag may begin with an opener itself. -/
example : markerEnd? "/*" "/* /*/* */" = some 5 := by decide +kernel

end DocBlocks
