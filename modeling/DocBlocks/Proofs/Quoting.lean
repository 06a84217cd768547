import DocBlocks.Region.LongText
import Mathlib.Data.List.Basic

/-!
String literals read in one pass, a character at a time. The pass remembers
whether it stands in a literal and whether a backslash is pending there; the
searches for a closing quote and for a literal left open agree with it.
-/
namespace DocBlocks.Region

/-- Where a pass over text stands. -/
inductive Quoting
  | outside
  | inside
  | escaped
  deriving DecidableEq

namespace Quoting

def step : Quoting → Char → Quoting
  | .outside, c => if c = '"' then .inside else .outside
  | .inside, c => if c = '"' then .outside else if c = '\\' then .escaped else .inside
  | .escaped, _ => .inside

def run (state : Quoting) (text : List Char) : Quoting := text.foldl step state

/-- A backslash at the end of a line is not pending on the next one. -/
def settled : Quoting → Quoting
  | .outside => .outside
  | .inside | .escaped => .inside

def runLines (state : Quoting) (lines : List (List Char)) : Quoting :=
  lines.foldl (fun state line => (state.run line).settled) state

/-- What is left of a text when the pass first stands outside of a literal. -/
def outsidePart : Quoting → List Char → List Char
  | .outside, text => text
  | _, [] => []
  | state, c :: rest => outsidePart (state.step c) rest

/-- The pass with a note of what follows the quote that opened the literal. -/
def noteOpening (state : Quoting) (note : Option (List Char)) : List Char → Option (List Char)
  | [] => note
  | c :: rest =>
      let next := state.step c
      next.noteOpening
        (if next = .outside then none else if state = .outside then some rest else note) rest

/-- What follows the quote that opened the literal still open at the end, if
that quote stands in this text. -/
def openedIn? (state : Quoting) (text : List Char) : Option (List Char) :=
  state.noteOpening none text

theorem run_append (state : Quoting) (front back : List Char) :
    state.run (front ++ back) = (state.run front).run back := by
  simp only [run, List.foldl_append]

theorem settled_eq_inside_iff {state : Quoting} :
    state.settled = .inside ↔ state ≠ .outside := by
  cases state <;> decide

theorem settled_ne_escaped (state : Quoting) : state.settled ≠ .escaped := by
  cases state <;> decide

/-- Within a literal, what is neither a quote nor a backslash before a character
leaves the pass there. -/
theorem step_inside_cases {c : Char} {rest : List Char} (hquote : c ≠ '"')
    (hslash : ∀ d later, c = '\\' → rest = d :: later → False) :
    c = '\\' ∧ rest = [] ∨ Quoting.inside.step c = .inside := by
  by_cases hc : c = '\\'
  · cases rest with
    | nil => exact Or.inl ⟨hc, rfl⟩
    | cons d later => exact absurd rfl (hslash d later hc)
  · exact Or.inr (by simp only [step, if_neg hquote, if_neg hc])

/-- Text without a closing quote leaves the literal open, and keeps the note. -/
theorem inside_of_not_closed {text : List Char} (h : afterClosing? text = none) :
    Quoting.inside.run text ≠ .outside ∧
      ∀ note, Quoting.inside.noteOpening note text = note := by
  fun_induction afterClosing? text with
  | case1 => exact ⟨by decide, fun _ => rfl⟩
  | case2 => cases h
  | case3 c rest ih => exact ih h
  | case4 c rest hquote hslash ih =>
    obtain ⟨hrun, hnote⟩ := ih h
    rcases step_inside_cases hquote hslash with ⟨rfl, rfl⟩ | hstep
    · -- a backslash is taken as a plain character only at the end of the text
      exact ⟨by decide, fun _ => rfl⟩
    · constructor
      · simpa only [run, List.foldl_cons, hstep] using hrun
      · intro note
        simpa only [noteOpening, hstep, reduceCtorEq, if_false] using hnote note

/-- Behind a closing quote the pass goes on outside, with the note forgotten. -/
theorem inside_of_closed {text rest : List Char} (h : afterClosing? text = some rest) :
    Quoting.inside.run text = Quoting.outside.run rest ∧
      Quoting.inside.outsidePart text = rest ∧
      ∀ note, Quoting.inside.noteOpening note text = Quoting.outside.openedIn? rest := by
  fun_induction afterClosing? text with
  | case1 => cases h
  | case2 rest =>
    obtain rfl := Option.some.inj h
    exact ⟨rfl, by simp [outsidePart, step], fun _ => rfl⟩
  | case3 c rest ih =>
    obtain ⟨hrun, hpart, hnote⟩ := ih h
    exact ⟨hrun, by simpa [outsidePart, step] using hpart, hnote⟩
  | case4 c rest hquote hslash ih =>
    obtain ⟨hrun, hpart, hnote⟩ := ih h
    rcases step_inside_cases hquote hslash with ⟨rfl, rfl⟩ | hstep
    · cases h
    · refine ⟨?_, ?_, ?_⟩
      · simpa only [run, List.foldl_cons, hstep] using hrun
      · simpa only [outsidePart, hstep] using hpart
      · intro note
        simpa only [noteOpening, hstep, reduceCtorEq, if_false] using hnote note

theorem outside_of_no_quote {text : List Char} (h : afterQuote? text = none) :
    Quoting.outside.run text = .outside ∧ Quoting.outside.openedIn? text = none := by
  induction text with
  | nil => exact ⟨rfl, rfl⟩
  | cons c text ih =>
    unfold afterQuote? at h
    split at h
    · cases h
    · next hc =>
      have hstep : Quoting.outside.step c = .outside := by simp only [step, if_neg hc]
      obtain ⟨hrun, hnote⟩ := ih h
      constructor
      · simpa only [run, List.foldl_cons, hstep] using hrun
      · simpa only [openedIn?, noteOpening, hstep, if_true] using hnote

theorem outside_of_quote {text tail : List Char} (h : afterQuote? text = some tail) :
    Quoting.outside.run text = Quoting.inside.run tail ∧
      Quoting.outside.openedIn? text = Quoting.inside.noteOpening (some tail) tail := by
  induction text with
  | nil => cases h
  | cons c text ih =>
    unfold afterQuote? at h
    split at h
    · next hc =>
      obtain rfl := Option.some.inj h
      subst hc
      exact ⟨rfl, by simp only [openedIn?, noteOpening, step, if_true, reduceCtorEq, if_false]⟩
    · next hc =>
      have hstep : Quoting.outside.step c = .outside := by simp only [step, if_neg hc]
      obtain ⟨hrun, hnote⟩ := ih h
      constructor
      · simpa only [run, List.foldl_cons, hstep] using hrun
      · simpa only [openedIn?, noteOpening, hstep, if_true] using hnote

/-- The nested search for a literal left open finds what the pass has noted. -/
theorem openedIn?_outside (text : List Char) :
    Quoting.outside.openedIn? text = openTail? text := by
  fun_induction openTail? text with
  | case1 text hquote => exact (outside_of_no_quote hquote).2
  | case2 text tail hquote hclose =>
    rw [(outside_of_quote hquote).2, (inside_of_not_closed hclose).2]
  | case3 text tail hquote rest hclose ih =>
    rw [(outside_of_quote hquote).2, (inside_of_closed hclose).2.2, ih]

theorem run_outside_of_not_open {text : List Char} (h : openTail? text = none) :
    Quoting.outside.run text = .outside := by
  fun_induction openTail? text with
  | case1 text hquote => exact (outside_of_no_quote hquote).1
  | case2 => cases h
  | case3 text tail hquote rest hclose ih =>
    rw [(outside_of_quote hquote).1, (inside_of_closed hclose).1, ih h]

theorem run_outside_of_open {text tail : List Char} (h : openTail? text = some tail) :
    Quoting.outside.run text = Quoting.inside.run tail ∧ afterClosing? tail = none := by
  fun_induction openTail? text with
  | case1 => cases h
  | case2 text opened hquote hclose =>
    obtain rfl := Option.some.inj h
    exact ⟨(outside_of_quote hquote).1, hclose⟩
  | case3 text opened hquote rest hclose ih =>
    obtain ⟨hrun, htail⟩ := ih h
    exact ⟨by rw [(outside_of_quote hquote).1, (inside_of_closed hclose).1, hrun], htail⟩

/-- A text leaves a literal open exactly if the pass over it ends within one. -/
theorem openTail?_eq_none_iff {text : List Char} :
    openTail? text = none ↔ Quoting.outside.run text = .outside := by
  constructor
  · exact run_outside_of_not_open
  · intro hrun
    cases h : openTail? text with
    | none => rfl
    | some tail =>
      obtain ⟨hinside, hclose⟩ := run_outside_of_open h
      exact absurd (hinside.symm.trans hrun) (inside_of_not_closed hclose).1

end Quoting

theorem afterClosing?_cons {c : Char} (hquote : c ≠ '"') (hslash : c ≠ '\\') (rest : List Char) :
    afterClosing? (c :: rest) = afterClosing? rest := by
  rw [afterClosing?]
  · exact hquote
  · intro d later hc
    exact absurd hc hslash

/-- Where a literal is closed does not depend on what follows. -/
theorem afterClosing?_append {text rest : List Char} (h : afterClosing? text = some rest)
    (later : List Char) : afterClosing? (text ++ later) = some (rest ++ later) := by
  fun_induction afterClosing? text with
  | case1 => cases h
  | case2 rest =>
    obtain rfl := Option.some.inj h
    rfl
  | case3 c rest ih => exact ih h
  | case4 c rest hquote hpair ih =>
    by_cases hslash : c = '\\'
    · cases rest with
      | nil => cases h
      | cons d rest => exact absurd rfl (hpair d rest hslash)
    · rw [List.cons_append, afterClosing?_cons hquote hslash]
      exact ih h

theorem openTail?_cons {c : Char} {text : List Char} (h : c ≠ '"') :
    openTail? (c :: text) = openTail? text := by
  have hstep : Quoting.outside.step c = .outside := by simp only [Quoting.step, if_neg h]
  simp only [← Quoting.openedIn?_outside, Quoting.openedIn?, Quoting.noteOpening, hstep, if_true]

theorem openTail?_closed {text rest : List Char} (h : afterClosing? text = some rest) :
    openTail? ('"' :: text) = openTail? rest := by
  have hquote : afterQuote? ('"' :: text) = some text := rfl
  rw [← Quoting.openedIn?_outside, (Quoting.outside_of_quote hquote).2,
    (Quoting.inside_of_closed h).2.2, Quoting.openedIn?_outside]

theorem openTail?_open {text : List Char} (h : afterClosing? text = none) :
    openTail? ('"' :: text) = some text := by
  have hquote : afterQuote? ('"' :: text) = some text := rfl
  rw [← Quoting.openedIn?_outside, (Quoting.outside_of_quote hquote).2,
    (Quoting.inside_of_not_closed h).2]

theorem endOutside_of_not_open {fragment : List Char} (h : openTail? fragment = none) :
    endOutside fragment = ⟨[], false⟩ := by
  unfold endOutside
  rw [h]
  split
  · rfl
  · rfl

end DocBlocks.Region
