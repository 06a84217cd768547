import DocBlocks.Proofs.ByteOrder
import DocBlocks.Sink
import Mathlib.Data.List.TakeDrop

/-!
A text handed to a sink one call at a time. What the sink has kept and what is still to be
offered make up the text after every call, and the sink never keeps more than its capacity;
when no call takes anything any more it keeps just that much. So what is kept is a beginning
of the text, however the calls cut it, and only a text that is kept whole is flushed.
-/
namespace DocBlocks

/-- Between two calls: the bytes kept so far, and those still to be offered. -/
structure Offering where
  kept : List UInt8
  left : List UInt8

namespace Sink

/-- How much of a text of some length is kept in the end. -/
def capacity (sink : Sink) (length : Nat) : Nat :=
  if sink.chunk = some 0 then 0
  else
    match sink.room with
    | none => length
    | some room => min length room

/-- How many of the bytes offered in one call are taken when some are kept already. -/
def taken (sink : Sink) (kept offered : Nat) : Nat :=
  min (min offered (sink.chunk.getD offered)) ((sink.room.map (· - kept)).getD offered)

/-- A call that takes something. Nothing is taken of what is over, or is refused. -/
def call? (sink : Sink) (state : Offering) : Option Offering :=
  let count := sink.taken state.kept.length state.left.length
  if count = 0 then none else some ⟨state.kept ++ state.left.take count, state.left.drop count⟩

/-- Some calls from one state to another, in which no further call takes anything. -/
inductive Calls (sink : Sink) : Nat → Offering → Offering → Prop
  | ended {state : Offering} (h : sink.call? state = none) : Calls sink 0 state state
  | call {count : Nat} {state next final : Offering} (h : sink.call? state = some next)
      (later : Calls sink count next final) : Calls sink (count + 1) state final

variable {sink : Sink} {bytes : List UInt8} {state next final : Offering} {count : Nat}

/-- What holds of a text between two calls. -/
structure Holds (sink : Sink) (bytes : List UInt8) (state : Offering) : Prop where
  whole : state.kept ++ state.left = bytes
  fits : state.kept.length ≤ sink.capacity bytes.length

theorem Holds.start (sink : Sink) (bytes : List UInt8) : sink.Holds bytes ⟨[], bytes⟩ :=
  ⟨rfl, Nat.zero_le _⟩

theorem Holds.length (h : sink.Holds bytes state) :
    state.kept.length + state.left.length = bytes.length := by
  rw [← List.length_append, h.whole]

theorem taken_le (sink : Sink) (kept offered : Nat) : sink.taken kept offered ≤ offered := by
  unfold taken
  omega

/-- A call keeps the sink within its capacity, and takes nothing only where that is used up. -/
theorem taken_fits {kept offered : Nat} (h : kept ≤ sink.capacity (kept + offered)) :
    kept + sink.taken kept offered ≤ sink.capacity (kept + offered) ∧
      (sink.taken kept offered = 0 → kept = sink.capacity (kept + offered)) := by
  obtain ⟨room, chunk, fails⟩ := sink
  unfold capacity taken at *
  cases room with
  | none =>
    cases chunk with
    | none => grind
    | some chunk => grind
  | some room =>
    cases chunk with
    | none => grind
    | some chunk => grind

theorem call?_eq_none_iff :
    sink.call? state = none ↔ sink.taken state.kept.length state.left.length = 0 := by
  simp only [call?, ite_eq_left_iff, reduceCtorEq, imp_false, Decidable.not_not]

theorem call?_eq_some (h : sink.call? state = some next) :
    0 < sink.taken state.kept.length state.left.length ∧
      next = ⟨state.kept ++ state.left.take (sink.taken state.kept.length state.left.length),
        state.left.drop (sink.taken state.kept.length state.left.length)⟩ := by
  simp only [call?] at h
  split at h
  · cases h
  · next hcount => exact ⟨Nat.pos_of_ne_zero hcount, (Option.some.inj h).symm⟩

theorem length_left_lt (h : sink.call? state = some next) :
    next.left.length < state.left.length := by
  obtain ⟨hcount, rfl⟩ := call?_eq_some h
  have hle := taken_le sink state.kept.length state.left.length
  rw [List.length_drop]
  omega

theorem Holds.of_call? (h : sink.Holds bytes state) (hcall : sink.call? state = some next) :
    sink.Holds bytes next := by
  obtain ⟨-, rfl⟩ := call?_eq_some hcall
  have hle := taken_le sink state.kept.length state.left.length
  have hfits := taken_fits (h.length.symm ▸ h.fits)
  constructor
  · rw [List.append_assoc, List.take_append_drop, h.whole]
  · rw [List.length_append, List.length_take, Nat.min_eq_left hle, ← h.length]
    exact hfits.1

theorem Holds.of_ended (h : sink.Holds bytes state) (hended : sink.call? state = none) :
    state = ⟨bytes.take (sink.capacity bytes.length), bytes.drop (sink.capacity bytes.length)⟩ := by
  have hused := (taken_fits (h.length.symm ▸ h.fits)).2 (call?_eq_none_iff.mp hended)
  rw [h.length] at hused
  rw [← hused, ← h.whole, List.take_left, List.drop_left]

theorem Calls.final_eq (hcalls : sink.Calls count state final) (h : sink.Holds bytes state) :
    final = ⟨bytes.take (sink.capacity bytes.length), bytes.drop (sink.capacity bytes.length)⟩ := by
  induction hcalls with
  | ended hended => exact h.of_ended hended
  | call hcall later ih => exact ih (h.of_call? hcall)

/-- The calls end, for each leaves less to offer. -/
theorem exists_calls (sink : Sink) (state : Offering) :
    ∃ count ≤ state.left.length, ∃ final, sink.Calls count state final := by
  induction hlength : state.left.length using Nat.strong_induction_on generalizing state with
  | _ length ih =>
    cases hcall : sink.call? state with
    | none => exact ⟨0, Nat.zero_le _, state, .ended hcall⟩
    | some next =>
      have hless := length_left_lt hcall
      obtain ⟨count, hcount, final, hcalls⟩ := ih _ (hlength ▸ hless) next rfl
      exact ⟨count + 1, by omega, final, .call hcall hcalls⟩

theorem taken_eq (kept offered : Nat) :
    sink.taken kept offered = min offered ((sink.allowance kept).getD offered) := by
  obtain ⟨room, chunk, fails⟩ := sink
  unfold taken allowance
  cases room with
  | none =>
    cases chunk with
    | none => grind
    | some chunk => grind
  | some room =>
    cases chunk with
    | none => grind
    | some chunk => grind

theorem offer_nil (kept : Nat) : sink.offer kept [] = ([], none) := by
  rw [offer, dif_pos rfl]

theorem offer_of_ended (h : sink.call? state = none) :
    sink.offer state.kept.length state.left =
      ([], if state.left = [] then none else some sink.refusal) := by
  have htaken := call?_eq_none_iff.mp h
  rw [taken_eq] at htaken
  by_cases hleft : state.left = []
  · rw [hleft, offer_nil, if_pos rfl]
  · have hlength := List.length_pos_iff.mpr hleft
    have hallowance : sink.allowance state.kept.length = some 0 := by
      cases hsome : sink.allowance state.kept.length with
      | none =>
        rw [hsome, Option.getD_none] at htaken
        omega
      | some count =>
        rw [hsome, Option.getD_some] at htaken
        congr 1
        omega
    rw [offer, dif_neg hleft, hallowance, if_neg hleft]

theorem offer_of_call (h : sink.call? state = some next) :
    ∃ part, next.kept = state.kept ++ part ∧
      sink.offer state.kept.length state.left =
        (part ++ (sink.offer next.kept.length next.left).1,
          (sink.offer next.kept.length next.left).2) := by
  obtain ⟨hcount, rfl⟩ := call?_eq_some h
  refine ⟨_, rfl, ?_⟩
  rw [taken_eq] at hcount ⊢
  have hleft : state.left ≠ [] := by
    intro hleft
    rw [hleft, List.length_nil, Nat.zero_min] at hcount
    exact absurd hcount (Nat.lt_irrefl 0)
  cases hallowance : sink.allowance state.kept.length with
  | none =>
    rw [offer, dif_neg hleft, hallowance]
    simp only [Option.getD_none, Nat.min_self, List.take_length, List.drop_length, offer_nil,
      List.append_nil]
  | some allowed =>
    cases allowed with
    | zero =>
      rw [hallowance, Option.getD_some, Nat.min_zero] at hcount
      exact absurd hcount (Nat.lt_irrefl 0)
    | succ allowed =>
      -- the last call is allowed more than is left, and takes the same bytes
      have htake : state.left.take (min state.left.length (allowed + 1)) =
          state.left.take (allowed + 1) := by
        rw [List.take_eq_take_iff]
        omega
      have hdrop : state.left.drop (min state.left.length (allowed + 1)) =
          state.left.drop (allowed + 1) := by
        rw [List.drop_eq_drop_iff]
        omega
      rw [offer, dif_neg hleft, hallowance]
      simp only [Option.getD_some, htake, hdrop, List.length_append]

theorem Calls.offer_eq (hcalls : sink.Calls count state final) :
    final.kept = state.kept ++ (sink.offer state.kept.length state.left).1 ∧
      (sink.offer state.kept.length state.left).2 =
        if final.left = [] then none else some sink.refusal := by
  induction hcalls with
  | ended hended =>
    rw [offer_of_ended hended]
    exact ⟨(List.append_nil _).symm, rfl⟩
  | call hcall later ih =>
    obtain ⟨part, hpart, hoffer⟩ := offer_of_call hcall
    rw [hoffer]
    exact ⟨by rw [← List.append_assoc, ← hpart, ih.1], ih.2⟩

theorem write_eq (text : String) (hcalls : sink.Calls count ⟨[], Text.bytes text⟩ final) :
    sink.write text = ⟨final.kept,
      if final.left = [] then if sink.flushFails then some (.flushing .jammed) else none
      else some (.writing sink.refusal)⟩ := by
  obtain ⟨hkept, hfault⟩ := hcalls.offer_eq
  have hoffer : sink.offer 0 (Text.bytes text) =
      (final.kept, if final.left = [] then none else some sink.refusal) :=
    Prod.ext hkept.symm hfault
  rw [write, ← Text.bytes, hoffer]
  by_cases hleft : final.left = []
  · simp only [if_pos hleft]
  · simp only [if_neg hleft]

/-- What has become of a text that was written to a sink. -/
structure Delivers (sink : Sink) (bytes : List UInt8) (delivery : Delivery) : Prop where
  kept : delivery.kept = bytes.take (sink.capacity bytes.length)
  complete : delivery.error = none ↔ delivery.kept = bytes ∧ sink.flushFails = false
  cut : delivery.kept ≠ bytes → ∃ error, delivery.error = some error ∧
    error.context = "Failed to write output" ∧ error.fault = sink.refusal
  flushed : ∀ error, delivery.error = some error → error.context = "Failed to flush output" →
    delivery.kept = bytes ∧ error.fault = .jammed
  ends : ∃ count ≤ bytes.length, ∃ final, sink.Calls count ⟨[], bytes⟩ final ∧
    final.kept = delivery.kept

/-- A sink keeps the beginning of the text that fits, and the writing succeeds exactly if
that is all of the text and the flush succeeds; a fault of the flush never hides that some
of the text was refused. After no more calls than there are bytes no call takes anything. -/
theorem write_delivers (sink : Sink) (text : String) :
    sink.Delivers (Text.bytes text) (sink.write text) := by
  obtain ⟨count, hcount, final, hcalls⟩ := exists_calls sink ⟨[], Text.bytes text⟩
  have hfinal := hcalls.final_eq (.start sink (Text.bytes text))
  have hwhole : final.kept = Text.bytes text ↔ final.left = [] := by
    rw [hfinal, List.drop_eq_nil_iff, List.take_eq_self_iff]
  rw [write_eq text hcalls]
  constructor
  case kept => rw [hfinal]
  case ends => exact ⟨count, hcount, final, hcalls, rfl⟩
  case complete =>
    rw [hwhole]
    by_cases hleft : final.left = []
    · cases hflush : sink.flushFails <;> simp [hleft]
    · simp [hleft]
  case cut =>
    intro hcut
    rw [ne_eq, hwhole] at hcut
    exact ⟨.writing sink.refusal, if_neg hcut, rfl, rfl⟩
  case flushed =>
    intro error herror hcontext
    rw [hwhole]
    by_cases hleft : final.left = []
    · refine ⟨hleft, ?_⟩
      simp only [hleft, if_true, Option.ite_none_right_eq_some, Option.some.injEq] at herror
      rw [← herror.2]
      rfl
    · simp only [hleft, if_false, Option.some.injEq] at herror
      rw [← herror] at hcontext
      exact absurd hcontext (by simp [SinkError.context])

/-- A chunk that ends within a character does not matter, and neither does a flush that
would fail once the room is used up. -/
example : (⟨some 4, some 3, true⟩ : Sink).write "aé€" =
    ⟨[0x61, 0xc3, 0xa9, 0xe2], some (.writing .full)⟩ := by decide +kernel

end Sink
end DocBlocks
