import DocBlocks.Proofs.Spelling

/-!
The reader of JSON texts beside the pass over their quotes. Both step through
the text together: the reader is within a literal just where the pass is, until
an escape goes wrong, and then no value is completed any more.
-/
namespace DocBlocks.Json

open Region

/-- The characters that end lines. -/
def IsBreak (c : Char) : Prop := c = '\n' ∨ c = '\r'

instance (c : Char) : Decidable (IsBreak c) := inferInstanceAs (Decidable (_ ∨ _))

namespace Literal

/-- Where a pass over the quotes stands at a stage. -/
def Stage.quoting : Stage → Quoting
  | .plain | .hex _ _ _ | .pairBackslash _ => .inside
  | .backslash | .pairLetter _ => .escaped

/-- A hexadecimal escape with a wrong digit is refused, if only at its end. -/
def Stage.Doomed : Stage → Prop
  | .hex _ _ none => True
  | _ => False

theorem Stage.quoting_ne_outside (stage : Stage) : stage.quoting ≠ .outside := by
  cases stage with
  | plain | hex | pairBackslash => exact Quoting.noConfusion
  | backslash | pairLetter => exact Quoting.noConfusion

def Progress.quoting : Progress → Quoting
  | .more literal => literal.stage.quoting
  | .closed _ => .outside

def Progress.Doomed : Progress → Prop
  | .more literal => literal.stage.Doomed
  | .closed _ => False

variable {literal next : Literal} {c : Char}

theorem stage_of_unit {lead : Option Nat} {n : Nat} (h : literal.unit lead n = .ok next) :
    next.stage = .plain ∨ ∃ high, next.stage = .pairBackslash high := by
  unfold unit at h
  cases lead with
  | none =>
    dsimp only at h
    split at h
    · cases h
    · split at h
      · obtain rfl := Except.ok.inj h
        exact Or.inr ⟨n, rfl⟩
      · obtain rfl := Except.ok.inj h
        exact Or.inl rfl
  | some high =>
    dsimp only at h
    split at h
    · obtain rfl := Except.ok.inj h
      exact Or.inl rfl
    · cases h

/-- A character of a hexadecimal escape is a digit, or else the escape is doomed. -/
theorem hexStep_cases {lead value : Option Nat} {bytes : Nat}
    (h : literal.hexStep lead bytes value c = .ok next) :
    next.stage.Doomed ∨
      value.isSome ∧ (∃ n, hexDigit? c = some n) ∧ next.stage.quoting = .inside := by
  unfold hexStep at h
  cases hvalue : value.bind (fun n => (hexDigit? c).map (16 * n + ·)) with
  | none =>
    simp only [hvalue] at h
    split at h
    · obtain rfl := Except.ok.inj h
      exact Or.inl trivial
    · cases h
  | some n =>
    obtain ⟨v, hv, hdigit⟩ := Option.bind_eq_some_iff.mp hvalue
    obtain ⟨d, hd, -⟩ := Option.map_eq_some_iff.mp hdigit
    refine Or.inr ⟨by rw [hv]; rfl, ⟨d, hd⟩, ?_⟩
    simp only [hvalue] at h
    split at h
    · obtain rfl := Except.ok.inj h
      rfl
    · cases hunit : literal.unit lead n with
      | error cause =>
        rw [hunit] at h
        cases h
      | ok made =>
        rw [hunit] at h
        obtain rfl := Except.ok.inj h
        rcases stage_of_unit hunit with hplain | ⟨high, hpair⟩
        · rw [hplain]
          rfl
        · rw [hpair]
          rfl

/-- A step within a literal: it dooms the literal, or it goes along with the pass
over the quotes, and then it is not over the end of a line. -/
theorem step_cases {progress : Progress} (hstep : literal.step c = .ok progress) :
    progress.Doomed ∨ ¬ literal.stage.Doomed ∧ ¬ IsBreak c ∧
      progress.quoting = literal.stage.quoting.step c := by
  obtain ⟨read, stage⟩ := literal
  cases stage with
  | plain =>
    refine Or.inr ⟨id, ?_, ?_⟩
    · rintro (rfl | rfl)
      · cases hstep
      · cases hstep
    · simp only [Literal.step] at hstep
      by_cases hquote : c = '"'
      · rw [if_pos hquote] at hstep
        obtain rfl := Except.ok.inj hstep
        simp only [Progress.quoting, Stage.quoting, Quoting.step, if_pos hquote]
      · rw [if_neg hquote] at hstep
        by_cases hslash : c = '\\'
        · rw [if_pos hslash] at hstep
          obtain rfl := Except.ok.inj hstep
          simp only [Progress.quoting, Stage.quoting, Quoting.step, if_neg hquote, if_pos hslash]
        · rw [if_neg hslash] at hstep
          split at hstep
          · cases hstep
          · obtain rfl := Except.ok.inj hstep
            simp only [Progress.quoting, push, Stage.quoting, Quoting.step, if_neg hquote,
              if_neg hslash]
  | backslash =>
    refine Or.inr ⟨id, ?_, ?_⟩
    · rintro (rfl | rfl)
      · cases hstep
      · cases hstep
    · simp only [Literal.step] at hstep
      split at hstep
      · obtain rfl := Except.ok.inj hstep
        rfl
      · split at hstep
        · obtain rfl := Except.ok.inj hstep
          rfl
        · cases hstep
  | hex lead bytes value =>
    obtain ⟨next, hhex, rfl⟩ := map_eq_ok_iff.mp hstep
    rcases hexStep_cases hhex with hdoomed | ⟨hvalue, ⟨n, hdigit⟩, hinside⟩
    · exact Or.inl hdoomed
    · obtain ⟨-, hquote, hslash⟩ := char_of_hexDigit? hdigit
      refine Or.inr ⟨?_, ?_, ?_⟩
      · obtain ⟨v, rfl⟩ := Option.isSome_iff_exists.mp hvalue
        exact id
      · rintro (rfl | rfl)
        · cases hdigit
        · cases hdigit
      · change next.stage.quoting = Quoting.inside.step c
        simp only [hinside, Quoting.step, if_neg hquote, if_neg hslash]
  | pairBackslash high =>
    simp only [Literal.step] at hstep
    split at hstep
    · next hslash =>
      obtain rfl := Except.ok.inj hstep
      subst hslash
      exact Or.inr ⟨id, by decide, rfl⟩
    · cases hstep
  | pairLetter high =>
    simp only [Literal.step] at hstep
    split at hstep
    · next hletter =>
      obtain rfl := Except.ok.inj hstep
      subst hletter
      exact Or.inr ⟨id, by decide, rfl⟩
    · cases hstep

end Literal

namespace Phase

/-- Where a pass over the quotes of the text stands in a phase. -/
def quoting : Phase → Quoting
  | .text literal | .keyText _ literal => literal.stage.quoting
  | .value _ | .keyword _ _ _ | .number _ _ | .key _ _ | .colon _ _ | .ended _ => .outside

def Doomed : Phase → Prop
  | .text literal | .keyText _ literal => literal.stage.Doomed
  | .value _ | .keyword _ _ _ | .number _ _ | .key _ _ | .colon _ _ | .ended _ => False

/-- What is left of a keyword has neither quotes nor white space. -/
def Lettered : Phase → Prop
  | .keyword next rest _ => ∀ c ∈ next :: rest, c ≠ '"' ∧ isSpace c = false
  | .text _ | .keyText _ _ | .value _ | .number _ _ | .key _ _ | .colon _ _ | .ended _ => True

end Phase

namespace Reader

variable {reader next : Reader} {c : Char} {text : List Char} {value : Value}

/-- The reader as it may be after a character outside of literals. -/
def Follows (c : Char) (next : Reader) : Prop :=
  next.phase.quoting = Quoting.outside.step c ∧ next.phase.Lettered

theorem follows_of_ne (hquote : c ≠ '"') (houtside : next.phase.quoting = .outside)
    (hletters : next.phase.Lettered) : next.Follows c := by
  refine ⟨?_, hletters⟩
  rw [houtside, Quoting.step, if_neg hquote]

theorem not_quote_of_isSpace (h : isSpace c = true) : c ≠ '"' := by
  rintro rfl
  cases h

theorem follows_of_beginValue {stack : List Frame} {closable : Bool}
    (h : beginValue stack closable c = .ok next) : next.Follows c := by
  unfold beginValue at h
  split at h
  · next hspace =>
    obtain rfl := Except.ok.inj h
    exact follows_of_ne (not_quote_of_isSpace hspace) rfl trivial
  · split at h
    · -- a literal begins
      obtain rfl := Except.ok.inj h
      exact ⟨rfl, trivial⟩
    · split at h
      · obtain rfl := Except.ok.inj h
        exact ⟨rfl, trivial⟩
      · cases h
    · split at h
      · obtain rfl := Except.ok.inj h
        exact ⟨rfl, trivial⟩
      · cases h
    · split at h
      · split at h
        · obtain rfl := Except.ok.inj h
          exact ⟨rfl, trivial⟩
        · cases h
      · cases h
    · obtain rfl := Except.ok.inj h
      have hletters : ∀ d ∈ ['u', 'l', 'l'], d ≠ '"' ∧ isSpace d = false := by
        simp [isSpace]
      exact ⟨rfl, hletters⟩
    · obtain rfl := Except.ok.inj h
      have hletters : ∀ d ∈ ['r', 'u', 'e'], d ≠ '"' ∧ isSpace d = false := by
        simp [isSpace]
      exact ⟨rfl, hletters⟩
    · obtain rfl := Except.ok.inj h
      have hletters : ∀ d ∈ ['a', 'l', 's', 'e'], d ≠ '"' ∧ isSpace d = false := by
        simp [isSpace]
      exact ⟨rfl, hletters⟩
    · obtain rfl := Except.ok.inj h
      exact ⟨rfl, trivial⟩
    · next hquote _ _ _ _ _ _ _ =>
      split at h
      · obtain rfl := Except.ok.inj h
        exact follows_of_ne hquote rfl trivial
      · cases h

theorem follows_of_afterValue {stack : List Frame} {value : Value}
    (h : afterValue stack value c = .ok next) : next.Follows c := by
  unfold afterValue at h
  split at h
  · next hspace =>
    obtain rfl := Except.ok.inj h
    exact follows_of_ne (not_quote_of_isSpace hspace) rfl trivial
  · split at h
    · cases h
    · split at h
      · obtain rfl := Except.ok.inj h
        exact ⟨rfl, trivial⟩
      · obtain rfl := Except.ok.inj h
        exact ⟨rfl, trivial⟩
      · cases h
    · split at h
      · obtain rfl := Except.ok.inj h
        exact ⟨rfl, trivial⟩
      · obtain rfl := Except.ok.inj h
        exact ⟨rfl, trivial⟩
      · cases h

theorem follows_of_beginKey {stack : List Frame} {before : Members} {closable : Bool}
    (h : beginKey stack before closable c = .ok next) : next.Follows c := by
  unfold beginKey at h
  split at h
  · next hspace =>
    obtain rfl := Except.ok.inj h
    exact follows_of_ne (not_quote_of_isSpace hspace) rfl trivial
  · split at h
    · obtain rfl := Except.ok.inj h
      exact ⟨rfl, trivial⟩
    · split at h
      · obtain rfl := Except.ok.inj h
        exact ⟨rfl, trivial⟩
      · cases h
    · cases h

theorem spaces_of_isSpace (h : isSpace c = true) : c = ' ' ∨ c = '\t' ∨ c = '\n' ∨ c = '\r' := by
  simpa only [isSpace, Bool.or_eq_true, beq_iff_eq, or_assoc] using h

/-- A number goes on neither with a quote nor with white space. -/
theorem letter_of_next? {stage later : Numeral.Stage} (h : stage.next? c = some (.ok later)) :
    c ≠ '"' ∧ isSpace c = false := by
  constructor
  · rintro rfl
    cases stage <;> cases h
  · rw [Bool.eq_false_iff]
    intro hspace
    rcases spaces_of_isSpace hspace with rfl | rfl | rfl | rfl <;> cases stage <;> cases h

/-- A step outside of literals. -/
theorem follows_of_step (houtside : reader.phase.quoting = .outside)
    (hletters : reader.phase.Lettered) (hstep : reader.step c = .ok next) : next.Follows c := by
  obtain ⟨stack, phase⟩ := reader
  cases phase with
  | text literal => exact absurd houtside literal.stage.quoting_ne_outside
  | keyText before literal => exact absurd houtside literal.stage.quoting_ne_outside
  | value closable => exact follows_of_beginValue hstep
  | key before closable => exact follows_of_beginKey hstep
  | ended value => exact follows_of_afterValue hstep
  | keyword first rest value =>
    simp only [step] at hstep
    split at hstep
    · next hfirst =>
      subst hfirst
      obtain ⟨⟨hquote, -⟩, hrest⟩ := List.forall_mem_cons.mp hletters
      split at hstep
      · obtain rfl := Except.ok.inj hstep
        exact follows_of_ne hquote rfl trivial
      · obtain rfl := Except.ok.inj hstep
        exact follows_of_ne hquote rfl hrest
    · cases hstep
  | number negative stage =>
    simp only [step] at hstep
    split at hstep
    · next hlater =>
      obtain rfl := Except.ok.inj hstep
      exact follows_of_ne (letter_of_next? hlater).1 rfl trivial
    · cases hstep
    · split at hstep
      · exact follows_of_afterValue hstep
      · cases hstep
  | colon before key =>
    simp only [step] at hstep
    split at hstep
    · next hspace =>
      obtain rfl := Except.ok.inj hstep
      exact follows_of_ne (not_quote_of_isSpace hspace) rfl trivial
    · split at hstep
      · next hcolon =>
        obtain rfl := Except.ok.inj hstep
        subst hcolon
        exact ⟨rfl, trivial⟩
      · cases hstep

/-- The step of a phase that holds a literal. -/
theorem literal_step {literal : Literal} {stack : List Frame} {phase : Literal → Phase}
    (hphase : LiteralPhase phase) (hstep : (⟨stack, phase literal⟩ : Reader).step c = .ok next) :
    ∃ progress, literal.step c = .ok progress ∧ (next.phase.Doomed ↔ progress.Doomed) ∧
      next.phase.quoting = progress.quoting ∧ next.phase.Lettered := by
  rcases hphase with rfl | ⟨before, rfl⟩
  · obtain ⟨progress, hprogress, rfl⟩ := map_eq_ok_iff.mp hstep
    refine ⟨progress, hprogress, ?_⟩
    cases progress with
    | more later => exact ⟨Iff.rfl, rfl, trivial⟩
    | closed text => exact ⟨Iff.rfl, rfl, trivial⟩
  · obtain ⟨progress, hprogress, rfl⟩ := map_eq_ok_iff.mp hstep
    refine ⟨progress, hprogress, ?_⟩
    cases progress with
    | more later => exact ⟨Iff.rfl, rfl, trivial⟩
    | closed text => exact ⟨Iff.rfl, rfl, trivial⟩

theorem exists_literal_of_inside (h : reader.phase.quoting ≠ .outside) :
    ∃ stack phase literal, LiteralPhase phase ∧ reader = ⟨stack, phase literal⟩ := by
  obtain ⟨stack, phase⟩ := reader
  cases phase with
  | text literal => exact ⟨stack, .text, literal, Or.inl rfl, rfl⟩
  | keyText before literal => exact ⟨stack, .keyText before, literal, Or.inr ⟨before, rfl⟩, rfl⟩
  | value | keyword | number | key | colon | ended => exact absurd rfl h

theorem inside_of_doomed (h : reader.phase.Doomed) : reader.phase.quoting ≠ .outside := by
  obtain ⟨stack, phase⟩ := reader
  cases phase with
  | text literal => exact literal.stage.quoting_ne_outside
  | keyText before literal => exact literal.stage.quoting_ne_outside
  | value | keyword | number | key | colon | ended => exact h.elim

/-- A step within a literal: it dooms the literal, or it goes along with the pass
over the quotes, and then it is not over the end of a line. -/
theorem inside_step (hinside : reader.phase.quoting ≠ .outside)
    (hstep : reader.step c = .ok next) :
    next.phase.Doomed ∨ ¬ reader.phase.Doomed ∧ ¬ IsBreak c ∧
      next.phase.quoting = reader.phase.quoting.step c ∧ next.phase.Lettered := by
  obtain ⟨stack, phase, literal, hphase, rfl⟩ := exists_literal_of_inside hinside
  obtain ⟨progress, hprogress, hdoomed, hquoting, hletters⟩ := literal_step hphase hstep
  have hstage : (phase literal).quoting = literal.stage.quoting ∧
      ((phase literal).Doomed ↔ literal.stage.Doomed) := by
    rcases hphase with rfl | ⟨before, rfl⟩
    · exact ⟨rfl, Iff.rfl⟩
    · exact ⟨rfl, Iff.rfl⟩
  rw [hdoomed, hquoting, hstage.1, hstage.2]
  rcases literal.step_cases hprogress with hlost | ⟨hstart, hbreak, hpass⟩
  · exact Or.inl hlost
  · exact Or.inr ⟨hstart, hbreak, hpass, hletters⟩

theorem doomed_steps (h : reader.phase.Doomed) (hsteps : reader.steps text = .ok next) :
    next.phase.Doomed := by
  induction text generalizing reader with
  | nil =>
    obtain rfl := Except.ok.inj hsteps
    exact h
  | cons c text ih =>
    obtain ⟨middle, hstep, hrest⟩ := steps_cons_eq_ok_iff.mp hsteps
    rcases inside_step (inside_of_doomed h) hstep with hlost | ⟨hstart, -⟩
    · exact ih hlost hrest
    · exact absurd h hstart

/-- Nothing is read to its end within a literal. -/
theorem outside_of_finish (h : reader.finish = .ok value) : reader.phase.quoting = .outside := by
  obtain ⟨stack, phase⟩ := reader
  cases phase with
  | text literal => cases h
  | keyText before literal => cases h
  | value | keyword | number | key | colon | ended => rfl

theorem not_doomed_of_completes (h : reader.Completes text value) : ¬ reader.phase.Doomed := by
  intro hdoomed
  obtain ⟨last, hsteps, hfinish⟩ := h
  exact inside_of_doomed (doomed_steps hdoomed hsteps) (outside_of_finish hfinish)

/-- As long as the value may still be completed, the reader stays together with the
pass over the quotes. -/
theorem quoting_steps (hletters : reader.phase.Lettered) (hsteps : reader.steps text = .ok next)
    (hlive : ¬ next.phase.Doomed) :
    next.phase.quoting = reader.phase.quoting.run text ∧ next.phase.Lettered := by
  induction text generalizing reader with
  | nil =>
    obtain rfl := Except.ok.inj hsteps
    exact ⟨rfl, hletters⟩
  | cons c text ih =>
    obtain ⟨middle, hstep, hrest⟩ := steps_cons_eq_ok_iff.mp hsteps
    have hmiddle : middle.phase.quoting = reader.phase.quoting.step c ∧
        middle.phase.Lettered := by
      by_cases houtside : reader.phase.quoting = .outside
      · obtain ⟨hquoting, hnext⟩ := follows_of_step houtside hletters hstep
        rw [houtside]
        exact ⟨hquoting, hnext⟩
      · rcases inside_step houtside hstep with hlost | ⟨-, -, hquoting, hnext⟩
        · exact absurd (doomed_steps hlost hrest) hlive
        · exact ⟨hquoting, hnext⟩
    obtain ⟨hlast, hend⟩ := ih hmiddle.2 hrest
    refine ⟨?_, hend⟩
    rw [hlast, hmiddle.1]
    rfl

/-- No value is completed over a break within a literal. -/
theorem outside_of_break (hc : IsBreak c) (h : reader.Completes (c :: text) value) :
    reader.phase.quoting = .outside := by
  by_contra hinside
  obtain ⟨next, hstep, hrest⟩ := completes_cons_iff.mp h
  rcases inside_step hinside hstep with hlost | ⟨-, hbreak, -⟩
  · exact not_doomed_of_completes hrest hlost
  · exact hbreak hc

end Reader

end DocBlocks.Json
