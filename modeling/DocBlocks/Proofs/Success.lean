import Mathlib.Data.List.Forall2

/-!
Computations that may fail, told by what they give when they do not.
-/
namespace DocBlocks

variable {ε δ α β : Type}

theorem bind_eq_ok_iff {m : Except ε α} {k : α → Except ε β} {b : β} :
    (m >>= k) = .ok b ↔ ∃ a, m = .ok a ∧ k a = .ok b := by
  cases m with
  | error e => simp [bind, Except.bind]
  | ok a => simp [bind, Except.bind]

theorem bind_congr_ok {m : Except ε α} {f g : α → Except ε β} (h : ∀ a, m = .ok a → f a = g a) :
    m >>= f = m >>= g := by
  cases m with
  | error e => rfl
  | ok a => exact h a rfl

theorem map_eq_ok_iff {m : Except ε α} {f : α → β} {b : β} :
    m.map f = .ok b ↔ ∃ a, m = .ok a ∧ f a = b := by
  cases m with
  | error e => simp [Except.map]
  | ok a => simp [Except.map]

theorem mapError_eq_ok_iff {m : Except ε α} {f : ε → δ} {a : α} :
    m.mapError f = .ok a ↔ m = .ok a := by
  cases m with
  | error e =>
    constructor
    · intro h
      cases h
    · intro h
      cases h
  | ok b =>
    constructor
    · intro h
      obtain rfl := Except.ok.inj h
      rfl
    · intro h
      obtain rfl := Except.ok.inj h
      rfl

theorem mapM_eq_ok_iff {f : α → Except ε β} {items : List α} {found : List β} :
    items.mapM f = .ok found ↔ List.Forall₂ (fun item b => f item = .ok b) items found := by
  induction items generalizing found with
  | nil =>
    rw [List.forall₂_nil_left_iff]
    constructor
    · intro h
      exact (Except.ok.inj h).symm
    · rintro rfl
      rfl
  | cons item items ih =>
    rw [List.mapM_cons, bind_eq_ok_iff, List.forall₂_cons_left_iff]
    constructor
    · rintro ⟨b, hb, hrest⟩
      obtain ⟨later, hlater, h⟩ := bind_eq_ok_iff.mp hrest
      exact ⟨b, later, hb, ih.mp hlater, (Except.ok.inj h).symm⟩
    · rintro ⟨b, later, hb, hlater, rfl⟩
      exact ⟨b, hb, bind_eq_ok_iff.mpr ⟨later, ih.mpr hlater, rfl⟩⟩

end DocBlocks
