import DocBlocks.Region
import Mathlib.Data.List.Basic

/-!
A scan over lines, one step for each of them. The steps are told apart by the
kind of line: one without a marker, a marker whose region ends on its line, a
marker that opens a region, a line of its body, and the line that closes it.
From the step of each kind follows what a run of such lines comes to.
-/
namespace DocBlocks

namespace Region

theorem afterTag?_eq_some_iff {tag text tail : List Char} :
    afterTag? tag text = some tail ↔
      tag ++ tail = Text.trimStart text ∧ continuesWord tail = false := by
  simp only [afterTag?, Option.filter_eq_some_iff, List.isPrefixOf?_eq_some_iff_append_eq,
    Bool.not_eq_true']

/-- What stands behind the tag of a marker is an end of the text. -/
theorem suffix_of_findMarker? {tag text tail : List Char}
    (h : findMarker? tag text = some tail) : tail <:+ text := by
  fun_induction findMarker? tag text with
  | case1 => simp at h
  | case2 rest ih =>
    have hrest : tail <:+ rest := by
      rcases Option.or_eq_some_iff.mp h with htag | ⟨-, hlater⟩
      · obtain ⟨happend, -⟩ := afterTag?_eq_some_iff.mp htag
        have hblank : Text.trimStart rest <:+ rest := List.dropWhile_suffix _
        exact (happend ▸ List.suffix_append tag tail).trans hblank
      · exact ih hlater
    exact hrest.trans (List.suffix_append ['/', '*'] rest)
  | case3 c rest _ ih => exact (ih h).trans (List.suffix_cons c rest)

theorem suffix_of_afterMarker? {tag line tail : List Char}
    (h : afterMarker? tag line = some tail) : tail <:+ line := by
  unfold afterMarker? at h
  split at h
  · cases h
  · exact suffix_of_findMarker? h

/-- What some lines add to the text of a region, and whether a long text is
open behind them. -/
def bodyEnd (longText : Bool) : List (List Char) → LineEnd
  | [] => ⟨[], longText⟩
  | line :: rest =>
      let ending := lineEnd longText line
      let later := bodyEnd ending.longText rest
      ⟨line ++ ending.written ++ later.written, later.longText⟩

namespace Mode

variable {tag : List Char} {number opened : Nat} {text : String} {longText : Bool}

theorem step_unmarked {line : List Char} (h : afterMarker? tag line = none) :
    Mode.outside.step tag number line = (.outside, none) := by
  simp only [step, h]

theorem step_oneLine {line tail front : List Char} (hmarker : afterMarker? tag line = some tail)
    (hclose : Text.before? closer tail = some front) :
    Mode.outside.step tag number line =
      (.outside, some ⟨⟨number, String.ofList (Text.trim front)⟩, number⟩) := by
  simp only [step, hmarker, hclose]

theorem step_opening {line tail : List Char} (hmarker : afterMarker? tag line = some tail)
    (hopen : ¬ closer <:+: tail) :
    Mode.outside.step tag number line = (.inside number "" false, none) := by
  simp only [step, hmarker, Text.before?_eq_none_iff.mpr hopen]

theorem step_body {line : List Char} (hopen : ¬ closer <:+: line) :
    (Mode.inside opened text longText).step tag number line =
      (.inside opened (text ++ String.ofList (line ++ (lineEnd longText line).written))
        (lineEnd longText line).longText, none) := by
  simp only [step, Text.occursIn_iff, if_neg hopen]

theorem step_closing {line : List Char} (hclose : closer <:+: line) :
    (Mode.inside opened text longText).step tag number line =
      (.outside, some ⟨⟨opened, text⟩, number⟩) := by
  simp only [step, Text.occursIn_iff, if_pos hclose]

/-- The mode after some lines of which the first has a number. -/
def steps (tag : List Char) : Mode → Nat → List (List Char) → Mode
  | mode, _, [] => mode
  | mode, number, line :: rest => steps tag (mode.step tag number line).1 (number + 1) rest

/-- Lines of a body add to the text of the region, whatever their numbers are. -/
theorem steps_body {body : List (List Char)} (hbody : ∀ line ∈ body, ¬ closer <:+: line) :
    (Mode.inside opened text longText).steps tag number body =
      .inside opened (text ++ String.ofList (bodyEnd longText body).written)
        (bodyEnd longText body).longText := by
  induction body generalizing number text longText with
  | nil => simp [steps, bodyEnd]
  | cons line body ih =>
    obtain ⟨hline, hrest⟩ := List.forall_mem_cons.mp hbody
    simp only [steps, step_body hline, ih hrest, bodyEnd, String.ofList_append,
      String.append_assoc]

end Mode
end Region

namespace Scan

open Region

variable {tag : List Char} {number opened : Nat} {text : String} {longText : Bool}

/-- A scan reports what its first line ends and goes on from the mode after it. -/
theorem ofLines_cons (mode : Mode) (line : List Char) (rest : List (List Char)) :
    ofLines tag mode number (line :: rest) =
      ⟨(mode.step tag number line).2.toList ++
          (ofLines tag (mode.step tag number line).1 (number + 1) rest).regions,
        (ofLines tag (mode.step tag number line).1 (number + 1) rest).unclosed⟩ := rfl

/-- A scan of some lines and more: what it finds in the first ones, and then what it
finds from the mode after them. -/
theorem ofLines_append (mode : Mode) (front back : List (List Char)) :
    ofLines tag mode number (front ++ back) =
      ⟨(ofLines tag mode number front).regions ++
          (ofLines tag (mode.steps tag number front) (number + front.length) back).regions,
        (ofLines tag (mode.steps tag number front) (number + front.length) back).unclosed⟩ := by
  induction front generalizing mode number with
  | nil => rfl
  | cons line front ih =>
    have hnumber : number + 1 + front.length = number + (line :: front).length := by
      simp only [List.length_cons]
      omega
    rw [List.cons_append, ofLines_cons, ih, ofLines_cons, Mode.steps, hnumber, List.append_assoc]

theorem ofLines_unmarked {front rest : List (List Char)}
    (hfront : ∀ line ∈ front, afterMarker? tag line = none) :
    ofLines tag .outside number (front ++ rest) =
      ofLines tag .outside (number + front.length) rest := by
  induction front generalizing number with
  | nil => rfl
  | cons line front ih =>
    obtain ⟨hline, hrest⟩ := List.forall_mem_cons.mp hfront
    have hnumber : number + 1 + front.length = number + (line :: front).length := by
      simp only [List.length_cons]
      omega
    rw [List.cons_append, ofLines_cons, Mode.step_unmarked hline, ← hnumber, ← ih hrest]
    rfl

theorem ofLines_body {body rest : List (List Char)}
    (hbody : ∀ line ∈ body, ¬ closer <:+: line) :
    ofLines tag (.inside opened text longText) number (body ++ rest) =
      ofLines tag (.inside opened (text ++ String.ofList (bodyEnd longText body).written)
        (bodyEnd longText body).longText) (number + body.length) rest := by
  induction body generalizing number text longText with
  | nil => simp [bodyEnd]
  | cons line body ih =>
    obtain ⟨hline, hrest⟩ := List.forall_mem_cons.mp hbody
    have hnumber : number + 1 + body.length = number + (line :: body).length := by
      simp only [List.length_cons]
      omega
    rw [List.cons_append, ofLines_cons, Mode.step_body hline]
    simp only [Option.toList_none, List.nil_append, ih hrest, bodyEnd, String.ofList_append,
      String.append_assoc, hnumber]

end Scan
end DocBlocks
