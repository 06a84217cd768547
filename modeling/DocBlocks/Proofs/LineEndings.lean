import DocBlocks.Build

/-!
The style of line ends. Carriage returns before line feeds that have none change no line of
a text, whichever of the feeds get one. Of a source nothing but its lines reaches the scan,
so what is found, reported and made of it stays the same.
-/
namespace DocBlocks

namespace Text

/-- What is put before a character: a carriage return, if it is a line feed that is chosen
and has none before it. -/
def returnBefore (chosen : Bool) (previous : Option Char) (c : Char) : List Char :=
  if c = '\n' ∧ previous ≠ some '\r' ∧ chosen = true then ['\r'] else []

/-- A text with carriage returns before the line feeds at the chosen places that have none.
Its first character stands at a place, behind the previous one if there is any. -/
def insertReturns (chosen : Nat → Bool) : Nat → Option Char → List Char → List Char
  | _, _, [] => []
  | place, previous, c :: rest =>
      returnBefore (chosen place) previous c ++
        c :: insertReturns chosen (place + 1) (some c) rest

variable {chosen : Nat → Bool} {place : Nat} {previous : Option Char}

theorem insertReturns_line {line : List Char} (h : '\n' ∉ line) :
    insertReturns chosen place previous line = line := by
  induction line generalizing place previous with
  | nil => rfl
  | cons c line ih =>
    obtain ⟨hc, hline⟩ := not_or.mp (mt List.mem_cons.mpr h)
    have hnone : returnBefore (chosen place) previous c = [] := by
      apply if_neg
      intro hfeed
      exact hc hfeed.1.symm
    rw [insertReturns, hnone, ih hline, List.nil_append]

theorem insertReturns_append (front back : List Char) :
    insertReturns chosen place previous (front ++ back) =
      insertReturns chosen place previous front ++
        insertReturns chosen (place + front.length) (front.getLast?.or previous) back := by
  induction front generalizing place previous with
  | nil => rfl
  | cons c front ih =>
    have hplace : place + 1 + front.length = place + (c :: front).length := by
      simp only [List.length_cons]
      omega
    have hlast : front.getLast?.or (some c) = (c :: front).getLast?.or previous := by
      rw [List.getLast?_cons]
      cases front.getLast? with
      | none => rfl
      | some d => rfl
    rw [List.cons_append, insertReturns, insertReturns, ih, hplace, hlast, List.append_assoc,
      List.cons_append]

/-- A carriage return before a line feed goes with it, if it is the only one there. -/
theorem dropReturn_insert (line : List Char) (choice : Bool) :
    dropReturn (line ++ returnBefore choice (line.getLast?.or previous) '\n') =
      dropReturn line := by
  by_cases hadd : '\n' = '\n' ∧ line.getLast?.or previous ≠ some '\r' ∧ choice = true
  · have hlast : line.getLast? ≠ some '\r' := by
      intro hreturn
      apply hadd.2.1
      rw [hreturn, Option.some_or]
    rw [returnBefore, if_pos hadd, dropReturn_return, dropReturn_of_last hlast]
  · rw [returnBefore, if_neg hadd, List.append_nil]

theorem lines_insertReturns (text : List Char) :
    lines (insertReturns chosen place previous text) = lines text := by
  induction text using lines_induction generalizing place previous with
  | unended line hline => rw [insertReturns_line hline]
  | ended line rest hline ih =>
    let added := returnBefore (chosen (place + line.length)) (line.getLast?.or previous) '\n'
    have hfeed : '\n' ∉ line ++ added := by
      have hadded : '\n' ∉ added := by
        simp only [added, returnBefore]
        split
        · decide
        · exact List.not_mem_nil
      rw [List.mem_append, not_or]
      exact ⟨hline, hadded⟩
    rw [insertReturns_append, insertReturns_line hline, insertReturns, ← List.append_assoc,
      lines_ended hfeed, lines_ended hline, ih, dropReturn_insert]

end Text

def withReturns (chosen : Nat → Bool) (source : String) : String :=
  String.ofList (Text.insertReturns chosen 0 none source.toList)

theorem scan_eq_of_lines {source other : String} (tag : String)
    (h : Text.lines source.toList = Text.lines other.toList) : scan tag source = scan tag other := by
  rw [scan, scan, h]

theorem build_eq_of_lines {source other : String} (tag : String)
    (h : Text.lines source.toList = Text.lines other.toList) :
    build tag source = build tag other := by
  rw [build, build, survey, survey, scan_eq_of_lines tag h]

/-- Whichever line feeds of a source have carriage returns before them, the same descriptors
are found on the same lines, with the same warnings, and the Markdown and the summary are
the same or fail alike. -/
theorem generate_withReturns (chosen : Nat → Bool) (tag source : String) :
    (scan tag (withReturns chosen source)).descriptors = (scan tag source).descriptors ∧
      (scan tag (withReturns chosen source)).events = (scan tag source).events ∧
      build tag (withReturns chosen source) = build tag source ∧
      generate tag (withReturns chosen source) = generate tag source ∧
      check tag (withReturns chosen source) = check tag source := by
  have hlines : Text.lines (withReturns chosen source).toList = Text.lines source.toList := by
    rw [withReturns, String.toList_ofList]
    exact Text.lines_insertReturns source.toList
  have hscan := scan_eq_of_lines tag hlines
  have hbuild := build_eq_of_lines tag hlines
  refine ⟨by rw [hscan], by rw [hscan], hbuild, ?_, ?_⟩
  · rw [generate, generate, hbuild]
  · rw [check, check, hbuild]

/-- A feed of a mixed text gets no second return, and a return elsewhere stays. -/
example : withReturns (fun _ => true) "a\n\nb\r\nc\rd\n" = "a\r\n\r\nb\r\nc\rd\r\n" := by
  decide +kernel

end DocBlocks
