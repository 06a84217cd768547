import DocBlocks.Proofs.Quoting
import DocBlocks.Proofs.Scanning

/-!
The repair of long texts line by line agrees with one pass over the body. A
line of a region is followed by the escape of its break while a literal is
open, and the text put together so leaves the pass where the lines did.
-/
namespace DocBlocks.Region

namespace Quoting

/-- What is written for the end of a line: its break as an escape while a
literal is open, and nothing if that was opened on this line with only blanks
behind its quote. -/
def breakAfter (state : Quoting) (line : List Char) : List Char :=
  if (state.run line).settled = .inside ∧ ¬ (state.openedIn? line).any (·.all Text.isBlank) then
    lineBreak
  else []

/-- The lines, each with what is written for its end. -/
def repaired (state : Quoting) : List (List Char) → List Char
  | [] => []
  | line :: rest => line ++ state.breakAfter line ++ (state.run line).settled.repaired rest

/-- The part of a line outside of the literal it begins in has a long-text key. -/
def HasKey (state : Quoting) (line : List Char) : Prop :=
  ∃ key ∈ longTextKeys, key <:+: state.outsidePart line

/-- Every literal that a line opens and leaves open stands on a line with a key. -/
def KeysShown (state : Quoting) (body : List (List Char)) : Prop :=
  ∀ i, (h : i < body.length) → ((state.runLines (body.take i)).openedIn? body[i]).isSome →
    (state.runLines (body.take i)).HasKey body[i]

instance (state : Quoting) (line : List Char) : Decidable (state.HasKey line) :=
  inferInstanceAs (Decidable (∃ key ∈ longTextKeys, key <:+: state.outsidePart line))

instance (state : Quoting) (body : List (List Char)) : Decidable (state.KeysShown body) :=
  inferInstanceAs (Decidable (∀ i, (h : i < body.length) →
    ((state.runLines (body.take i)).openedIn? body[i]).isSome →
      (state.runLines (body.take i)).HasKey body[i]))

theorem KeysShown.head {state : Quoting} {line : List Char} {body : List (List Char)}
    (h : state.KeysShown (line :: body)) : (state.openedIn? line).isSome → state.HasKey line :=
  h 0 (Nat.zero_lt_succ _)

theorem KeysShown.tail {state : Quoting} {line : List Char} {body : List (List Char)}
    (h : state.KeysShown (line :: body)) : (state.run line).settled.KeysShown body := by
  intro i hi
  exact h (i + 1) (Nat.succ_lt_succ hi)

theorem KeysShown.take {state : Quoting} {body : List (List Char)} (h : state.KeysShown body)
    (n : Nat) : state.KeysShown (body.take n) := by
  intro i hi hopened
  have hlength : i < n ∧ i < body.length := by
    simp only [List.length_take] at hi
    omega
  have htake : (body.take n).take i = body.take i := by
    rw [List.take_take, Nat.min_eq_left (Nat.le_of_lt hlength.1)]
  rw [htake, List.getElem_take] at hopened ⊢
  exact h i hlength.2 hopened

theorem run_inside_blank {text : List Char} (h : text.all Text.isBlank) :
    Quoting.inside.run text = .inside := by
  induction text with
  | nil => rfl
  | cons c text ih =>
    obtain ⟨hc, htext⟩ := by simpa only [List.all_cons, Bool.and_eq_true] using h
    have hquote : c ≠ '"' := by
      rintro rfl
      exact absurd hc (by decide)
    have hslash : c ≠ '\\' := by
      rintro rfl
      exact absurd hc (by decide)
    simpa only [run, List.foldl_cons, step, if_neg hquote, if_neg hslash] using ih htext

theorem run_of_openedIn? {state : Quoting} {line tail : List Char} (hstate : state ≠ .escaped)
    (h : state.openedIn? line = some tail) : state.run line = Quoting.inside.run tail := by
  cases state with
  | escaped => exact absurd rfl hstate
  | outside =>
    rw [openedIn?_outside] at h
    exact (run_outside_of_open h).1
  | inside =>
    cases hclose : afterClosing? line with
    | none =>
      rw [openedIn?, (inside_of_not_closed hclose).2] at h
      cases h
    | some rest =>
      obtain ⟨hrun, -, hnote⟩ := inside_of_closed hclose
      rw [openedIn?, hnote, openedIn?_outside] at h
      rw [hrun, (run_outside_of_open h).1]

/-- The escape of a break takes up a backslash that the line left pending. -/
theorem run_breakAfter {state : Quoting} (hstate : state ≠ .escaped) (line : List Char) :
    state.run (line ++ state.breakAfter line) = (state.run line).settled := by
  rw [run_append]
  unfold breakAfter
  split
  · next hbreak =>
    have hopen := settled_eq_inside_iff.mp hbreak.1
    cases hrun : state.run line with
    | outside => exact absurd hrun hopen
    | inside => rfl
    | escaped => rfl
  · next hbreak =>
    cases hrun : state.run line with
    | outside => rfl
    | inside => rfl
    | escaped =>
      rw [hrun] at hbreak
      have hblank : (state.openedIn? line).any (·.all Text.isBlank) := by
        by_contra hnot
        exact hbreak ⟨rfl, hnot⟩
      cases hopened : state.openedIn? line with
      | none =>
        rw [hopened] at hblank
        cases hblank
      | some tail =>
        rw [hopened] at hblank
        rw [run_of_openedIn? hstate hopened, run_inside_blank hblank] at hrun
        cases hrun

/-- One pass over the repaired lines ends where the pass line by line does. -/
theorem run_repaired {state : Quoting} (hstate : state ≠ .escaped) (body : List (List Char)) :
    state.run (state.repaired body) = state.runLines body := by
  induction body generalizing state with
  | nil => rfl
  | cons line body ih =>
    rw [repaired, run_append, run_breakAfter hstate, ih (settled_ne_escaped _)]
    rfl

theorem endOutside_eq {fragment : List Char}
    (hkey : (Quoting.outside.openedIn? fragment).isSome → Quoting.outside.HasKey fragment) :
    endOutside fragment = ⟨Quoting.outside.breakAfter fragment,
      decide ((Quoting.outside.run fragment).settled = .inside)⟩ := by
  cases hopen : openTail? fragment with
  | none =>
    have hrun := run_outside_of_not_open hopen
    rw [endOutside_of_not_open hopen, breakAfter, hrun]
    rfl
  | some tail =>
    obtain ⟨hrun, hclose⟩ := run_outside_of_open hopen
    have hinside : (Quoting.outside.run fragment).settled = .inside := by
      rw [settled_eq_inside_iff, hrun]
      exact (inside_of_not_closed hclose).1
    have hnote : Quoting.outside.openedIn? fragment = some tail := by
      rw [openedIn?_outside, hopen]
    have hany : longTextKeys.any (Text.occursIn · fragment) = true := by
      obtain ⟨key, hmem, hinfix⟩ := hkey (by rw [hnote]; rfl)
      have hpart : Quoting.outside.outsidePart fragment = fragment := by
        cases fragment <;> rfl
      rw [hpart] at hinfix
      exact List.any_eq_true.mpr ⟨key, hmem, Text.occursIn_iff.mpr hinfix⟩
    rw [endOutside, if_pos hany, hopen, breakAfter, hinside, hnote]
    by_cases hblank : tail.all Text.isBlank
    · simp [hblank]
    · simp [hblank]

/-- The end of one line is repaired as the pass over it says. -/
theorem lineEnd_eq {state : Quoting} {line : List Char} (hstate : state ≠ .escaped)
    (hkey : (state.openedIn? line).isSome → state.HasKey line) :
    lineEnd (decide (state = .inside)) line =
      ⟨state.breakAfter line, decide ((state.run line).settled = .inside)⟩ := by
  cases state with
  | escaped => exact absurd rfl hstate
  | outside => exact endOutside_eq hkey
  | inside =>
    cases hclose : afterClosing? line with
    | none =>
      obtain ⟨hrun, hnote⟩ := inside_of_not_closed hclose
      have hinside := settled_eq_inside_iff.mpr hrun
      simp only [lineEnd, decide_true, if_true, hclose, breakAfter, hinside, openedIn?, hnote]
      rfl
    | some rest =>
      obtain ⟨hrun, hpart, hnote⟩ := inside_of_closed hclose
      have hopened : Quoting.inside.openedIn? line = Quoting.outside.openedIn? rest := hnote none
      have hrest : (Quoting.outside.openedIn? rest).isSome → Quoting.outside.HasKey rest := by
        intro hsome
        obtain ⟨key, hmem, hinfix⟩ := hkey (by rw [hopened]; exact hsome)
        rw [hpart] at hinfix
        refine ⟨key, hmem, ?_⟩
        cases rest <;> exact hinfix
      simp only [lineEnd, decide_true, if_true, hclose, endOutside_eq hrest, breakAfter, hrun,
        hopened]

/-- The repair of a body, from any state that a line can begin in. -/
theorem bodyEnd_eq {state : Quoting} {body : List (List Char)} (hstate : state ≠ .escaped)
    (hkeys : state.KeysShown body) :
    bodyEnd (decide (state = .inside)) body =
      ⟨state.repaired body, decide (state.runLines body = .inside)⟩ := by
  induction body generalizing state with
  | nil => rfl
  | cons line body ih =>
    simp only [bodyEnd, lineEnd_eq hstate hkeys.head, ih (settled_ne_escaped _) hkeys.tail]
    rfl

end Quoting

/-- After every line of a body the repair stands where one pass over the lines
stands: a long text is open exactly if a literal is, the text is that of the
repaired lines, and one pass over this text ends in the same state. From there
the scan goes on over the lines behind, and a closer in the next line makes the
text that of the region. -/
theorem steps_eq_repaired (tag : List Char) (number : Nat) (marker tail : List Char)
    (body : List (List Char)) (hmarker : afterMarker? tag marker = some tail)
    (hopen : ¬ closer <:+: tail) (hbody : ∀ line ∈ body, ¬ closer <:+: line)
    (hkeys : Quoting.outside.KeysShown body) (i : Nat) :
    Mode.outside.steps tag number (marker :: body.take i) =
        .inside number (String.ofList (Quoting.outside.repaired (body.take i)))
          (decide (Quoting.outside.runLines (body.take i) = .inside)) ∧
      Quoting.outside.run (Quoting.outside.repaired (body.take i)) =
        Quoting.outside.runLines (body.take i) ∧
      (∀ rest, Scan.ofLines tag .outside number (marker :: (body.take i ++ rest)) =
        Scan.ofLines tag (Mode.outside.steps tag number (marker :: body.take i))
          (number + 1 + (body.take i).length) rest) ∧
      ∀ closing, closer <:+: closing →
        Scan.ofLines tag .outside number (marker :: (body.take i ++ [closing])) =
          ⟨[⟨⟨number, String.ofList (Quoting.outside.repaired (body.take i))⟩,
            number + 1 + (body.take i).length⟩], none⟩ := by
  have hout : Quoting.outside ≠ .escaped := by decide
  have htake : ∀ line ∈ body.take i, ¬ closer <:+: line :=
    fun line hline => hbody line (List.mem_of_mem_take hline)
  have hend : bodyEnd false (body.take i) = ⟨Quoting.outside.repaired (body.take i),
      decide (Quoting.outside.runLines (body.take i) = .inside)⟩ :=
    Quoting.bodyEnd_eq hout (hkeys.take i)
  have hmode : Mode.outside.steps tag number (marker :: body.take i) =
      .inside number (String.ofList (Quoting.outside.repaired (body.take i)))
        (decide (Quoting.outside.runLines (body.take i) = .inside)) := by
    rw [Mode.steps, Mode.step_opening hmarker hopen, Mode.steps_body htake, hend,
      String.empty_append]
  have hscan : ∀ rest, Scan.ofLines tag .outside number (marker :: (body.take i ++ rest)) =
      Scan.ofLines tag (Mode.outside.steps tag number (marker :: body.take i))
        (number + 1 + (body.take i).length) rest := by
    intro rest
    rw [hmode, Scan.ofLines_cons, Mode.step_opening hmarker hopen, Scan.ofLines_body htake, hend,
      String.empty_append]
    rfl
  refine ⟨hmode, Quoting.run_repaired hout _, hscan, ?_⟩
  intro closing hclosing
  rw [hscan, hmode, Scan.ofLines_cons, Mode.step_closing hclosing]
  rfl

/-- A long text is closed and another one opened on a line, the first one with
a backslash at the end of its line. -/
def reopenedBody : List (List Char) :=
  ["\x7b\"class\": \"Chain\",".toList, "\"longtext\": \"".toList, "Long \\\"A\\".toList,
    "\", \"example\": \"ex1".toList, "ex2".toList, "\"".toList, "\x7d".toList]

def reopenedText : String :=
  "\x7b\"class\": \"Chain\",\"longtext\": \"Long \\\"A\\\\n\", \"example\": \"ex1\\n"

theorem steps_eq_repaired_reopened :
    Quoting.outside.KeysShown reopenedBody ∧
    Mode.outside.steps "doc".toList 4 ("/* doc".toList :: reopenedBody.take 4) =
      .inside 4 reopenedText true ∧
    Quoting.outside.run (Quoting.outside.repaired (reopenedBody.take 4)) = .inside ∧
    Scan.ofLines "doc".toList .outside 4
        ("/* doc".toList :: (reopenedBody.take 4 ++ ["*/".toList])) =
      ⟨[⟨⟨4, reopenedText⟩, 9⟩], none⟩ := by
  have hkeys : Quoting.outside.KeysShown reopenedBody := by decide +kernel
  obtain ⟨hmode, hrun, -, hclosed⟩ := steps_eq_repaired "doc".toList 4 "/* doc".toList []
    reopenedBody (by decide +kernel) (by decide +kernel) (by decide +kernel) hkeys 4
  have htext : String.ofList (Quoting.outside.repaired (reopenedBody.take 4)) = reopenedText := by
    decide +kernel
  have hinside : Quoting.outside.runLines (reopenedBody.take 4) = .inside := by decide +kernel
  rw [htext, hinside] at hmode
  rw [hinside] at hrun
  have hscan := hclosed "*/".toList List.infix_rfl
  rw [htext] at hscan
  exact ⟨hkeys, hmode, hrun, hscan⟩

end DocBlocks.Region
