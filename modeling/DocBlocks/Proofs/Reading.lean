import DocBlocks.Json.Reader
import DocBlocks.Proofs.Success
import Mathlib.Data.List.Basic

/-!
Reading a JSON text in parts. The reader goes through `front ++ back` by going
through `front` and then, from where that leads, through `back`; it completes a
value if it gets to the end of the text and nothing is open there.
-/
namespace DocBlocks.Json

namespace Reader

theorem steps_cons_eq_ok_iff {reader last : Reader} {c : Char} {text : List Char} :
    reader.steps (c :: text) = .ok last ↔
      ∃ next, reader.step c = .ok next ∧ next.steps text = .ok last := by
  unfold steps
  rw [List.foldlM_cons]
  exact bind_eq_ok_iff

theorem steps_append_eq_ok_iff {reader last : Reader} {front back : List Char} :
    reader.steps (front ++ back) = .ok last ↔
      ∃ middle, reader.steps front = .ok middle ∧ middle.steps back = .ok last := by
  unfold steps
  rw [List.foldlM_append]
  exact bind_eq_ok_iff

theorem steps_cons {reader next last : Reader} {c : Char} {text : List Char}
    (hstep : reader.step c = .ok next) (hrest : next.steps text = .ok last) :
    reader.steps (c :: text) = .ok last :=
  steps_cons_eq_ok_iff.mpr ⟨next, hstep, hrest⟩

theorem steps_append {reader middle last : Reader} {front back : List Char}
    (hfront : reader.steps front = .ok middle) (hback : middle.steps back = .ok last) :
    reader.steps (front ++ back) = .ok last :=
  steps_append_eq_ok_iff.mpr ⟨middle, hfront, hback⟩

/-- From this reader on, the text ends the value that is read. -/
def Completes (reader : Reader) (text : List Char) (value : Value) : Prop :=
  ∃ last, reader.steps text = .ok last ∧ last.finish = .ok value

theorem completes_cons_iff {reader : Reader} {c : Char} {text : List Char} {value : Value} :
    reader.Completes (c :: text) value ↔
      ∃ next, reader.step c = .ok next ∧ next.Completes text value := by
  constructor
  · rintro ⟨last, hsteps, hfinish⟩
    obtain ⟨next, hstep, hrest⟩ := steps_cons_eq_ok_iff.mp hsteps
    exact ⟨next, hstep, last, hrest, hfinish⟩
  · rintro ⟨next, hstep, last, hrest, hfinish⟩
    exact ⟨last, steps_cons_eq_ok_iff.mpr ⟨next, hstep, hrest⟩, hfinish⟩

theorem completes_append_iff {reader : Reader} {front back : List Char} {value : Value} :
    reader.Completes (front ++ back) value ↔
      ∃ middle, reader.steps front = .ok middle ∧ middle.Completes back value := by
  constructor
  · rintro ⟨last, hsteps, hfinish⟩
    obtain ⟨middle, hfront, hback⟩ := steps_append_eq_ok_iff.mp hsteps
    exact ⟨middle, hfront, last, hback, hfinish⟩
  · rintro ⟨middle, hfront, last, hback, hfinish⟩
    exact ⟨last, steps_append_eq_ok_iff.mpr ⟨middle, hfront, hback⟩, hfinish⟩

end Reader

theorem read_eq_ok_iff {text : List Char} {value : Value} :
    read text = .ok value ↔ Reader.start.Completes text value :=
  Reader.run_ok_iff Reader.start .start text value

end DocBlocks.Json
