import DocBlocks.Proofs.ReaderQuoting
import DocBlocks.Text.Lines

/-!
Line breaks in a JSON text that can be read. Within a literal there is none;
elsewhere a break is white space and may be left out. So the lines of the text
leave no literal open, and joined without a separator they are read as the same
value.
-/
namespace DocBlocks.Json

open Region

namespace Reader

variable {reader next : Reader} {c : Char} {text front back : List Char} {value : Value}

theorem isSpace_of_isBreak (hc : IsBreak c) : isSpace c = true := by
  rcases hc with rfl | rfl
  · rfl
  · rfl

/-- The characters that may follow a complete value. -/
def EndsValue (c : Char) : Prop := isSpace c = true ∨ c = ',' ∨ c = ']' ∨ c = '}'

theorem endsValue_of_afterValue {stack : List Frame} {value : Value}
    (h : afterValue stack value c = .ok next) : EndsValue c := by
  unfold afterValue at h
  split at h
  · next hspace => exact Or.inl hspace
  · split at h
    · cases h
    · split at h
      · exact Or.inr (Or.inl rfl)
      · exact Or.inr (Or.inr (Or.inl rfl))
      · cases h
    · split at h
      · exact Or.inr (Or.inl rfl)
      · exact Or.inr (Or.inr (Or.inr rfl))
      · cases h

theorem not_numeral_of_endsValue (h : EndsValue c) :
    digit? c = none ∧ c ≠ '.' ∧ ¬ (c = 'e' ∨ c = 'E') := by
  rcases h with hspace | rfl | rfl | rfl
  · rcases spaces_of_isSpace hspace with rfl | rfl | rfl | rfl <;> decide
  · decide
  · decide
  · decide

theorem next?_eq_none {negative : Bool} {stage : Numeral.Stage} {n : Numeral}
    (hvalue : stage.value negative = .ok n) (hc : EndsValue c) : stage.next? c = none := by
  obtain ⟨hdigit, hpoint, hmark⟩ := not_numeral_of_endsValue hc
  have hafter : ∀ digits exponent point,
      Numeral.Stage.afterDigits? digits exponent point c = none := by
    intro digits exponent point
    rw [Numeral.Stage.afterDigits?, if_neg (fun h => hpoint h.1), if_neg hmark]
  unfold Numeral.Stage.next?
  rw [hdigit]
  cases stage with
  | sign | point | mark | signedMark => cases hvalue
  | zero | whole | long | fraction | full => exact hafter _ _ _
  | power | vanished => rfl

theorem completes_number {stack : List Frame} {negative : Bool} {stage : Numeral.Stage}
    {n : Numeral} (hvalue : stage.value negative = .ok n)
    (h : (⟨stack, .ended (.number n)⟩ : Reader).Completes text value) :
    (⟨stack, .number negative stage⟩ : Reader).Completes text value := by
  cases text with
  | nil =>
    obtain ⟨last, hsteps, hfinish⟩ := h
    obtain rfl := Except.ok.inj hsteps
    refine ⟨_, rfl, ?_⟩
    simp only [finish, hvalue]
    exact hfinish
  | cons c text =>
    obtain ⟨next, hstep, hrest⟩ := completes_cons_iff.mp h
    refine completes_cons_iff.mpr ⟨next, ?_, hrest⟩
    simp only [step, next?_eq_none hvalue (endsValue_of_afterValue hstep), hvalue]
    exact hstep

theorem completes_of_space (houtside : reader.phase.quoting = .outside)
    (hletters : reader.phase.Lettered) (hspace : isSpace c = true)
    (h : reader.Completes (c :: text) value) : reader.Completes text value := by
  obtain ⟨next, hstep, hrest⟩ := completes_cons_iff.mp h
  obtain ⟨stack, phase⟩ := reader
  cases phase with
  | text literal => exact absurd houtside literal.stage.quoting_ne_outside
  | keyText before literal => exact absurd houtside literal.stage.quoting_ne_outside
  | value closable =>
    simp only [step, beginValue, if_pos hspace] at hstep
    obtain rfl := Except.ok.inj hstep
    exact hrest
  | key before closable =>
    simp only [step, beginKey, if_pos hspace] at hstep
    obtain rfl := Except.ok.inj hstep
    exact hrest
  | colon before key =>
    simp only [step, if_pos hspace] at hstep
    obtain rfl := Except.ok.inj hstep
    exact hrest
  | ended value =>
    simp only [step, afterValue, if_pos hspace] at hstep
    obtain rfl := Except.ok.inj hstep
    exact hrest
  | keyword first rest value =>
    have hne : c ≠ first := by
      rintro rfl
      have hletter := (hletters c List.mem_cons_self).2
      rw [hspace] at hletter
      cases hletter
    simp only [step, if_neg hne] at hstep
    cases hstep
  | number negative stage =>
    simp only [step] at hstep
    split at hstep
    · next hlater =>
      have hletter := (letter_of_next? hlater).2
      rw [hspace] at hletter
      cases hletter
    · cases hstep
    · split at hstep
      · next n hvalue =>
        simp only [afterValue, if_pos hspace] at hstep
        obtain rfl := Except.ok.inj hstep
        exact completes_number hvalue hrest
      · cases hstep

/-- Before a break the reader is outside of literals, and so is the pass over the
quotes. From there the value is completed without the break. -/
theorem completes_break (houtside : reader.phase.quoting = .outside)
    (hletters : reader.phase.Lettered) (hc : IsBreak c)
    (h : reader.Completes (front ++ c :: back) value) :
    Quoting.outside.run front = .outside ∧
      ∃ middle, reader.steps front = .ok middle ∧ middle.phase.quoting = .outside ∧
        middle.phase.Lettered ∧ middle.Completes back value := by
  obtain ⟨middle, hfront, hback⟩ := completes_append_iff.mp h
  have hmiddle : middle.phase.quoting = .outside := outside_of_break hc hback
  obtain ⟨hquoting, hnext⟩ := quoting_steps hletters hfront (not_doomed_of_completes hback)
  have hspace : isSpace c = true := isSpace_of_isBreak hc
  rw [houtside] at hquoting
  refine ⟨hquoting.symm.trans hmiddle, middle, hfront, hmiddle, hnext, ?_⟩
  exact completes_of_space hmiddle hnext hspace hback

theorem completes_lineEnd (houtside : reader.phase.quoting = .outside)
    (hletters : reader.phase.Lettered)
    (h : reader.Completes (front ++ '\n' :: back) value) :
    Quoting.outside.run (Text.dropReturn front) = .outside ∧
      ∃ middle, reader.steps (Text.dropReturn front) = .ok middle ∧
        middle.phase.quoting = .outside ∧ middle.phase.Lettered ∧
        middle.Completes back value := by
  rcases Text.dropReturn_eq front with hsame | hreturn
  · rw [hsame]
    exact completes_break houtside hletters (Or.inl rfl) h
  · rw [hreturn, List.append_assoc] at h
    obtain ⟨hrun, middle, hsteps, hmiddle, hnext, hfeed⟩ :=
      completes_break houtside hletters (Or.inr rfl) h
    have hback := completes_of_space hmiddle hnext rfl hfeed
    exact ⟨hrun, middle, hsteps, hmiddle, hnext, hback⟩

/-- The lines of a text that completes a value leave no literal open, and they
complete it when joined. -/
theorem completes_lines (houtside : reader.phase.quoting = .outside)
    (hletters : reader.phase.Lettered) (h : reader.Completes text value) :
    (∀ line ∈ Text.lines text, Quoting.outside.run line = .outside) ∧
      reader.Completes (Text.lines text).flatten value := by
  induction text using Text.lines_induction generalizing reader with
  | unended line hline =>
    have hrun : Quoting.outside.run line = .outside := by
      obtain ⟨last, hsteps, hfinish⟩ := h
      have hlast : last.phase.quoting = .outside := outside_of_finish hfinish
      have hlive : ¬ last.phase.Doomed := fun hdoomed => inside_of_doomed hdoomed hlast
      have hquoting := (quoting_steps hletters hsteps hlive).1
      rw [houtside, hlast] at hquoting
      exact hquoting.symm
    rw [Text.lines_unended hline]
    by_cases hempty : line = []
    · subst hempty
      exact ⟨by simp, h⟩
    · simpa [if_neg hempty] using And.intro hrun h
  | ended line rest hline ih =>
    obtain ⟨hrun, middle, hsteps, hmiddle, hnext, hrest⟩ :=
      completes_lineEnd houtside hletters h
    obtain ⟨hlater, hjoined⟩ := ih hmiddle hnext hrest
    rw [Text.lines_ended hline]
    constructor
    · intro l hl
      rcases List.mem_cons.mp hl with rfl | hl
      · exact hrun
      · exact hlater l hl
    · rw [List.flatten_cons]
      exact completes_append_iff.mpr ⟨middle, hsteps, hjoined⟩

end Reader

/-- The lines of a text that can be read leave no literal open, and joined without
a separator they are read as the same value. -/
theorem read_lines {text : List Char} {value : Value} (h : read text = .ok value) :
    (∀ line ∈ Text.lines text, openTail? line = none) ∧
      read (Text.lines text).flatten = .ok value := by
  have hstart : Reader.start.Completes text value := read_eq_ok_iff.mp h
  have houtside : Reader.start.phase.quoting = .outside := rfl
  have hletters : Reader.start.phase.Lettered := trivial
  obtain ⟨hrun, hjoined⟩ := Reader.completes_lines houtside hletters hstart
  refine ⟨?_, read_eq_ok_iff.mpr hjoined⟩
  intro line hline
  exact Quoting.openTail?_eq_none_iff.mpr (hrun line hline)

end DocBlocks.Json
