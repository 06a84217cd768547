/-!
Finding a fixed text inside another one.
-/
namespace DocBlocks.Text

/-- What stands before the first occurrence of `mark`. -/
def before? (mark : List Char) : List Char → Option (List Char)
  | [] => if mark = [] then some [] else none
  | c :: rest =>
      if mark.isPrefixOf (c :: rest) then some []
      else (before? mark rest).map (c :: ·)

def occursIn (mark text : List Char) : Bool := (before? mark text).isSome

theorem eq_append_of_before? {mark text front : List Char} (h : before? mark text = some front) :
    ∃ rest, text = front ++ mark ++ rest := by
  induction text generalizing front with
  | nil =>
    simp only [before?] at h
    split at h <;> simp_all
  | cons c text ih =>
    simp only [before?] at h
    split at h
    · next found =>
      obtain ⟨rest, hr⟩ := List.isPrefixOf_iff_prefix.mp found
      simp only [Option.some.injEq] at h
      exact ⟨rest, by simp [← h, hr]⟩
    · obtain ⟨b, hb, rfl⟩ := Option.map_eq_some_iff.mp h
      obtain ⟨rest, hr⟩ := ih hb
      exact ⟨rest, by simp [hr]⟩

theorem occursIn_iff {mark text : List Char} : occursIn mark text = true ↔ mark <:+: text := by
  constructor
  · intro h
    obtain ⟨b, hb⟩ := Option.isSome_iff_exists.mp h
    obtain ⟨rest, hr⟩ := eq_append_of_before? hb
    exact ⟨b, rest, hr.symm⟩
  · rintro ⟨b, rest, rfl⟩
    induction b with
    | nil =>
      cases h : ([] ++ mark ++ rest) with
      | nil => simp_all [occursIn, before?]
      | cons c r =>
        have : mark.isPrefixOf (c :: r) = true :=
          List.isPrefixOf_iff_prefix.mpr ⟨rest, by simpa using h⟩
        simp [occursIn, before?, this]
    | cons c b ih =>
      simp only [List.cons_append, occursIn, before?]
      split
      · rfl
      · simpa [occursIn] using ih

theorem before?_eq_none_iff {mark text : List Char} :
    before? mark text = none ↔ ¬ mark <:+: text := by
  rw [← occursIn_iff, occursIn]
  simp

/-- `front` stands before the first occurrence of `mark`, one that no other
occurrence begins before. -/
def IsBefore (mark text front : List Char) : Prop :=
  front ++ mark <+: text ∧ ∀ k < front.length, ¬ mark <+: text.drop k

theorem isBefore_cons_iff {mark text front : List Char} {c : Char}
    (h : ¬ mark <+: c :: text) :
    IsBefore mark (c :: text) front ↔ ∃ later, front = c :: later ∧ IsBefore mark text later := by
  constructor
  · rintro ⟨hstart, hfirst⟩
    cases front with
    | nil => exact absurd hstart h
    | cons d later =>
      obtain ⟨hd, hlater⟩ := List.cons_prefix_cons.mp hstart
      subst hd
      refine ⟨later, rfl, hlater, ?_⟩
      intro k hk
      exact hfirst (k + 1) (by simpa using hk)
  · rintro ⟨later, rfl, hstart, hfirst⟩
    refine ⟨List.cons_prefix_cons.mpr ⟨rfl, hstart⟩, ?_⟩
    intro k hk
    cases k with
    | zero => exact h
    | succ k => exact hfirst k (by simpa using hk)

theorem before?_eq_some_iff {mark text front : List Char} :
    before? mark text = some front ↔ IsBefore mark text front := by
  induction text generalizing front with
  | nil =>
    simp only [before?, IsBefore, List.prefix_nil, List.append_eq_nil_iff]
    by_cases hmark : mark = []
    · cases front <;> simp [hmark]
    · simp [hmark]
  | cons c text ih =>
    simp only [before?]
    by_cases h : mark <+: c :: text
    · rw [if_pos (List.isPrefixOf_iff_prefix.mpr h)]
      constructor
      · intro heq
        obtain rfl := Option.some.inj heq
        exact ⟨h, by simp⟩
      · rintro ⟨-, hfirst⟩
        cases front with
        | nil => rfl
        | cons d later => exact absurd h (hfirst 0 (by simp))
    · rw [if_neg (by simpa using h), isBefore_cons_iff h, Option.map_eq_some_iff]
      constructor
      · rintro ⟨later, hlater, rfl⟩
        exact ⟨later, rfl, ih.mp hlater⟩
      · rintro ⟨later, rfl, hlater⟩
        exact ⟨later, ih.mpr hlater, rfl⟩

end DocBlocks.Text
