/-!
The physical lines of a text. A line ends at a line feed, which takes one
carriage return before it along; a carriage return anywhere else belongs to
its line. Text after the last line feed is a line only if there is any.
-/
namespace DocBlocks.Text

/-- The lines that a line feed ends, without it, and the text after the last one. -/
def splitFeeds : List Char → List (List Char) × List Char
  | [] => ([], [])
  | c :: rest =>
      let (ended, last) := splitFeeds rest
      if c = '\n' then ([] :: ended, last)
      else
        match ended with
        | [] => ([], c :: last)
        | line :: later => ((c :: line) :: later, last)

/-- One carriage return at the end is part of the line end. -/
def dropReturn : List Char → List Char
  | [] => []
  | ['\r'] => []
  | c :: rest => c :: dropReturn rest

def lines (text : List Char) : List (List Char) :=
  let (ended, last) := splitFeeds text
  ended.map dropReturn ++ if last = [] then [] else [last]

theorem splitFeeds_unended {line : List Char} (h : '\n' ∉ line) : splitFeeds line = ([], line) := by
  induction line with
  | nil => rfl
  | cons c line ih =>
    obtain ⟨hc, hline⟩ := not_or.mp (mt List.mem_cons.mpr h)
    simp only [splitFeeds, ih hline, if_neg (Ne.symm hc)]

theorem splitFeeds_ended {line : List Char} (h : '\n' ∉ line) (rest : List Char) :
    splitFeeds (line ++ '\n' :: rest) = (line :: (splitFeeds rest).1, (splitFeeds rest).2) := by
  induction line with
  | nil => rfl
  | cons c line ih =>
    obtain ⟨hc, hline⟩ := not_or.mp (mt List.mem_cons.mpr h)
    simp only [List.cons_append, splitFeeds, ih hline, if_neg (Ne.symm hc)]

theorem lines_unended {line : List Char} (h : '\n' ∉ line) :
    lines line = if line = [] then [] else [line] := by
  simp only [lines, splitFeeds_unended h, List.map_nil, List.nil_append]

theorem lines_ended {line : List Char} (h : '\n' ∉ line) (rest : List Char) :
    lines (line ++ '\n' :: rest) = dropReturn line :: lines rest := by
  simp only [lines, splitFeeds_ended h, List.map_cons, List.cons_append]

/-- Nothing but a carriage return at the end is left out. -/
theorem dropReturn_eq (line : List Char) :
    dropReturn line = line ∨ line = dropReturn line ++ ['\r'] := by
  fun_induction dropReturn line with
  | case1 => exact Or.inl rfl
  | case2 => exact Or.inr rfl
  | case3 c rest _ ih =>
    rcases ih with hsame | hreturn
    · exact Or.inl (congrArg (List.cons c) hsame)
    · exact Or.inr (congrArg (List.cons c) hreturn)

theorem dropReturn_return (line : List Char) : dropReturn (line ++ ['\r']) = line := by
  induction line with
  | nil => rfl
  | cons c line ih =>
    have hmore : line ++ ['\r'] ≠ [] := by simp
    have hstep : dropReturn (c :: (line ++ ['\r'])) = c :: dropReturn (line ++ ['\r']) := by
      rw [dropReturn]
      intro _ hnil
      exact hmore hnil
    rw [List.cons_append, hstep, ih]

theorem dropReturn_of_last {line : List Char} (h : line.getLast? ≠ some '\r') :
    dropReturn line = line := by
  rcases dropReturn_eq line with hsame | hreturn
  · exact hsame
  · rw [hreturn, List.getLast?_concat] at h
    exact absurd rfl h

/-- A text is a line that nothing ends, or a line that a feed ends and a text behind it. -/
@[elab_as_elim]
theorem lines_induction {motive : List Char → Prop}
    (unended : ∀ line, '\n' ∉ line → motive line)
    (ended : ∀ line rest, '\n' ∉ line → motive rest → motive (line ++ '\n' :: rest))
    (text : List Char) : motive text := by
  induction hlength : text.length using Nat.strongRecOn generalizing text with
  | ind n ih =>
    by_cases hfeed : '\n' ∈ text
    · obtain ⟨line, rest, rfl, hline⟩ := List.eq_append_cons_of_mem hfeed
      simp only [List.length_append, List.length_cons] at hlength
      exact ended line rest hline (ih rest.length (by omega) rest rfl)
    · exact unended text hfeed

/-- Before a feed and more text, the lines of a text stay as they are, but for the last
one: there is one even if it is empty, and a carriage return at its end goes. -/
theorem exists_lines_feed (front : List Char) :
    ∃ ended last, lines front = ended ++ (if last = [] then [] else [last]) ∧
      ended.length = front.count '\n' ∧
      ∀ back, lines (front ++ '\n' :: back) = ended ++ dropReturn last :: lines back := by
  induction front using lines_induction with
  | unended line hline =>
    refine ⟨[], line, lines_unended hline, ?_, lines_ended hline⟩
    rw [List.count_eq_zero_of_not_mem hline]
    rfl
  | ended line rest hline ih =>
    obtain ⟨ended, last, hlines, hcount, hback⟩ := ih
    refine ⟨dropReturn line :: ended, last, ?_, ?_, ?_⟩
    · rw [lines_ended hline, hlines, List.cons_append]
    · rw [List.count_append, List.count_cons_self, List.count_eq_zero_of_not_mem hline,
        List.length_cons, hcount, Nat.zero_add]
    · intro back
      rw [List.append_assoc, List.cons_append, lines_ended hline, hback, List.cons_append]

end DocBlocks.Text
