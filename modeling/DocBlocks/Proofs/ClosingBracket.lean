import DocBlocks.Descriptor
import DocBlocks.Proofs.Reading
import DocBlocks.Text.Blank
import Mathlib.Data.List.Induction

/-!
The end of a text that is read as a list or an object. Behind its closing bracket there
is nothing but white space; the reader is kept in view of the text it has gone through.
-/
namespace DocBlocks

namespace Text

/-- The last character that is not blank. -/
def lastInk? (text : List Char) : Option Char := text.reverse.find? (!isBlank ·)

theorem lastInk?_append (front back : List Char) :
    lastInk? (front ++ back) = (lastInk? back).or (lastInk? front) := by
  rw [lastInk?, List.reverse_append, List.find?_append]
  rfl

theorem lastInk?_of_blank {gap : List Char} (h : gap.all isBlank = true) :
    lastInk? gap = none := by
  rw [lastInk?, List.find?_eq_none]
  intro c hc
  simpa using List.all_eq_true.mp h c (List.mem_reverse.mp hc)

theorem lastInk?_append_blank {gap : List Char} (h : gap.all isBlank = true)
    (text : List Char) : lastInk? (text ++ gap) = lastInk? text := by
  rw [lastInk?_append, lastInk?_of_blank h, Option.none_or]

theorem lastInk?_append_of_some {back : List Char} {c : Char} (h : lastInk? back = some c)
    (front : List Char) : lastInk? (front ++ back) = some c := by
  rw [lastInk?_append, h, Option.some_or]

end Text

namespace Json

theorem isBlank_of_isSpace {c : Char} (h : isSpace c = true) : Text.isBlank c = true := by
  simp only [isSpace, Bool.or_eq_true, beq_iff_eq] at h
  rcases h with ((rfl | rfl) | rfl) | rfl <;> decide

/-- A list or an object. -/
def Value.IsBracketed : Value → Prop
  | .list _ | .object _ => True
  | .null | .boolean _ | .number _ | .text _ => False

/-- The text ends with a closing bracket and white space. -/
def EndsClosed (text : List Char) : Prop :=
  Text.lastInk? text = some ']' ∨ Text.lastInk? text = some '}'

theorem endsClosed_append_list (text : List Char) : EndsClosed (text ++ [']']) :=
  Or.inl (Text.lastInk?_append_of_some (by decide) text)

theorem endsClosed_append_object (text : List Char) : EndsClosed (text ++ ['}']) :=
  Or.inr (Text.lastInk?_append_of_some (by decide) text)

theorem EndsClosed.append_space {text : List Char} (h : EndsClosed text) {c : Char}
    (hc : isSpace c = true) : EndsClosed (text ++ [c]) := by
  have hblank : [c].all Text.isBlank = true := by simpa using isBlank_of_isSpace hc
  rw [EndsClosed, Text.lastInk?_append_blank hblank]
  exact h

/-- A list or an object is complete only at the end of a text that closes it. -/
def Phase.Closes (text : List Char) : Phase → Prop
  | .ended v => v.IsBracketed → EndsClosed text
  | .keyword _ _ v => ¬ v.IsBracketed
  | .value _ | .number _ _ | .text _ | .key _ _ | .keyText _ _ | .colon _ _ => True

namespace Reader

variable {reader next : Reader} {stack : List Frame} {c : Char} {text : List Char}

theorem closes_of_beginValue {closable : Bool} (h : beginValue stack closable c = .ok next) :
    next.phase.Closes (text ++ [c]) := by
  unfold beginValue at h
  split at h
  · obtain rfl := Except.ok.inj h
    trivial
  · split at h
    · obtain rfl := Except.ok.inj h
      trivial
    · split at h
      · obtain rfl := Except.ok.inj h
        trivial
      · cases h
    · split at h
      · obtain rfl := Except.ok.inj h
        trivial
      · cases h
    · split at h
      · split at h
        · -- the list ends as soon as it has begun
          obtain rfl := Except.ok.inj h
          exact fun _ => endsClosed_append_list text
        · cases h
      · cases h
    · obtain rfl := Except.ok.inj h
      exact id
    · obtain rfl := Except.ok.inj h
      exact id
    · obtain rfl := Except.ok.inj h
      exact id
    · obtain rfl := Except.ok.inj h
      trivial
    · split at h
      · obtain rfl := Except.ok.inj h
        trivial
      · cases h

theorem closes_of_afterValue {value : Value} (hvalue : value.IsBracketed → EndsClosed text)
    (h : afterValue stack value c = .ok next) : next.phase.Closes (text ++ [c]) := by
  unfold afterValue at h
  split at h
  · next hspace =>
    obtain rfl := Except.ok.inj h
    exact fun hbracketed => (hvalue hbracketed).append_space hspace
  · split at h
    · cases h
    · split at h
      · obtain rfl := Except.ok.inj h
        trivial
      · obtain rfl := Except.ok.inj h
        exact fun _ => endsClosed_append_list text
      · cases h
    · split at h
      · obtain rfl := Except.ok.inj h
        trivial
      · obtain rfl := Except.ok.inj h
        exact fun _ => endsClosed_append_object text
      · cases h

theorem closes_of_beginKey {before : Members} {closable : Bool}
    (h : beginKey stack before closable c = .ok next) : next.phase.Closes (text ++ [c]) := by
  unfold beginKey at h
  split at h
  · obtain rfl := Except.ok.inj h
    trivial
  · split at h
    · obtain rfl := Except.ok.inj h
      trivial
    · split at h
      · obtain rfl := Except.ok.inj h
        exact fun _ => endsClosed_append_object text
      · cases h
    · cases h

theorem closes_step (h : reader.phase.Closes text) (hstep : reader.step c = .ok next) :
    next.phase.Closes (text ++ [c]) := by
  obtain ⟨stack, phase⟩ := reader
  cases phase with
  | value closable => exact closes_of_beginValue hstep
  | key before closable => exact closes_of_beginKey hstep
  | ended value => exact closes_of_afterValue h hstep
  | keyword first rest value =>
    simp only [step] at hstep
    split at hstep
    · split at hstep
      · obtain rfl := Except.ok.inj hstep
        exact fun hbracketed => absurd hbracketed h
      · obtain rfl := Except.ok.inj hstep
        exact h
    · cases hstep
  | number negative stage =>
    simp only [step] at hstep
    split at hstep
    · obtain rfl := Except.ok.inj hstep
      trivial
    · cases hstep
    · split at hstep
      · exact closes_of_afterValue False.elim hstep
      · cases hstep
  | text literal =>
    obtain ⟨progress, -, rfl⟩ := map_eq_ok_iff.mp hstep
    cases progress with
    | more later => trivial
    | closed found => exact False.elim
  | keyText before literal =>
    obtain ⟨progress, -, rfl⟩ := map_eq_ok_iff.mp hstep
    cases progress with
    | more later => trivial
    | closed found => trivial
  | colon before key =>
    simp only [step] at hstep
    split at hstep
    · obtain rfl := Except.ok.inj hstep
      trivial
    · split at hstep
      · obtain rfl := Except.ok.inj hstep
        trivial
      · cases hstep

theorem closes_steps (hsteps : start.steps text = .ok reader) : reader.phase.Closes text := by
  induction text using List.reverseRecOn generalizing reader with
  | nil =>
    obtain rfl := Except.ok.inj hsteps
    trivial
  | append_singleton text c ih =>
    obtain ⟨middle, hfront, hlast⟩ := steps_append_eq_ok_iff.mp hsteps
    obtain ⟨next, hstep, hend⟩ := steps_cons_eq_ok_iff.mp hlast
    obtain rfl := Except.ok.inj hend
    exact closes_step (ih hfront) hstep

theorem ended_of_finish {value : Value} (hvalue : value.IsBracketed)
    (h : reader.finish = .ok value) : reader.phase = .ended value := by
  obtain ⟨stack, phase⟩ := reader
  cases phase with
  | number negative stage =>
    obtain ⟨n, -, hn⟩ := bind_eq_ok_iff.mp h
    cases stack with
    | nil =>
      obtain rfl := Except.ok.inj hn
      exact hvalue.elim
    | cons frame stack => cases frame <;> cases hn
  | ended other =>
    cases stack with
    | nil => exact congrArg Phase.ended (Except.ok.inj h)
    | cons frame stack => cases frame <;> cases h
  | value | keyword | text | key | keyText | colon => cases h

end Reader

/-- Nothing but white space follows the closing bracket of a list or an object. -/
theorem endsClosed_of_read {text : List Char} {value : Value} (hvalue : value.IsBracketed)
    (h : read text = .ok value) : EndsClosed text := by
  obtain ⟨last, hsteps, hfinish⟩ := read_eq_ok_iff.mp h
  have hcloses := Reader.closes_steps hsteps
  rw [Reader.ended_of_finish hvalue hfinish] at hcloses
  exact hcloses hvalue

end Json

/-- A text that describes an entry ends with a closing bracket. -/
theorem endsClosed_of_entry {text : String} {entry : Entry} (h : entryOfText text = .ok entry) :
    Json.EndsClosed text.toList := by
  unfold entryOfText at h
  cases hread : Json.read text.toList with
  | error fault =>
    rw [hread] at h
    cases h
  | ok value =>
    rw [hread] at h
    refine Json.endsClosed_of_read ?_ hread
    cases value with
    | list | object => trivial
    | null | boolean | number | text => cases h

end DocBlocks
