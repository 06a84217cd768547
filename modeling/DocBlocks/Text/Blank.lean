import DocBlocks.Text.InversionList

/-!
Blank characters, the Unicode property White_Space, and text with the blanks
at its ends removed.
-/
namespace DocBlocks.Text

def blanks : InversionList := ⟨[
  0x9, 0xE, 0x20, 0x21, 0x85, 0x86, 0xA0, 0xA1, 0x1680, 0x1681,
  0x2000, 0x200B, 0x2028, 0x202A, 0x202F, 0x2030, 0x205F, 0x2060, 0x3000, 0x3001]⟩

def isBlank (c : Char) : Bool := blanks.contains c

def trimStart (text : List Char) : List Char := text.dropWhile isBlank

def trimEnd (text : List Char) : List Char := (text.reverse.dropWhile isBlank).reverse

def trim (text : List Char) : List Char := trimEnd (trimStart text)

theorem trimStart_eq_self {text : List Char} (h : ∀ c ∈ text.head?, isBlank c = false) :
    trimStart text = text := by
  cases text with
  | nil => rfl
  | cons c rest =>
    have hc : ¬ isBlank c = true := by simpa using h c rfl
    rw [trimStart, List.dropWhile_cons, if_neg hc]

/-- Without the blanks at its start a text begins with what stands behind them all. -/
theorem trimStart_eq_iff {text rest : List Char} :
    trimStart text = rest ↔
      ∃ blanks, text = blanks ++ rest ∧ (∀ c ∈ blanks, isBlank c = true) ∧
        ∀ c ∈ rest.head?, isBlank c = false := by
  constructor
  · intro h
    subst h
    refine ⟨text.takeWhile isBlank, List.takeWhile_append_dropWhile.symm, ?_, ?_⟩
    · intro c hc
      exact List.all_eq_true.mp List.all_takeWhile c hc
    · intro c hc
      have hfirst := List.head?_dropWhile_not isBlank text
      rw [show (text.dropWhile isBlank).head? = some c from hc] at hfirst
      simpa using hfirst
  · intro h
    obtain ⟨blanks, htext, hblank, hrest⟩ := h
    rw [htext, trimStart, List.dropWhile_append_of_pos hblank]
    exact trimStart_eq_self hrest

end DocBlocks.Text
