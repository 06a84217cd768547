import DocBlocks.Proofs.Quoting
import DocBlocks.Proofs.Reading

/-!
How text is written in a string literal: a character stands for itself, after a
backslash as a short escape, or as one or two units of four hexadecimal digits.
The reader takes every such writing back to the text, and no quote in it closes
the literal.
-/
namespace DocBlocks.Json

open Literal

/-- What a letter after a backslash stands for. -/
def shortEscapes : List (Char × Char) :=
  [('"', '"'), ('\\', '\\'), ('/', '/'), ('b', '\x08'), ('f', '\x0c'), ('n', '\n'), ('r', '\r'),
    ('t', '\t')]

/-- Four hexadecimal digits, in either case, and their number. -/
inductive HexUnit : List Char → Nat → Prop
  | mk {a b c d : Char} {i j k l : Nat} (ha : hexDigit? a = some i) (hb : hexDigit? b = some j)
      (hc : hexDigit? c = some k) (hd : hexDigit? d = some l) :
      HexUnit [a, b, c, d] (16 * (16 * (16 * i + j) + k) + l)

/-- The ways of writing one character. -/
inductive SpelledChar : List Char → Char → Prop
  | plain {c : Char} (hquote : c ≠ '"') (hslash : c ≠ '\\') (hcontrol : ¬ c < ' ') :
      SpelledChar [c] c
  | short {letter c : Char} (h : (letter, c) ∈ shortEscapes) : SpelledChar ['\\', letter] c
  | unit {digits : List Char} {c : Char} (h : HexUnit digits c.toNat) :
      SpelledChar ('\\' :: 'u' :: digits) c
  | pair {high low : List Char} {n m : Nat} {c : Char} (hhigh : HexUnit high n)
      (hlow : HexUnit low m) (hn : isLeading n) (hm : isTrailing m)
      (hc : c.toNat = 0x10000 + (n - 0xD800) * 0x400 + (m - 0xDC00)) :
      SpelledChar ('\\' :: 'u' :: (high ++ '\\' :: 'u' :: low)) c

/-- `Spelled raw text` says that `raw` between two quotes is a literal of `text`. -/
inductive Spelled : List Char → List Char → Prop
  | nil : Spelled [] []
  | cons {raw rest text : List Char} {c : Char} (hchar : SpelledChar raw c)
      (hrest : Spelled rest text) : Spelled (raw ++ rest) (c :: text)

theorem Spelled.append {raw raw' text text' : List Char} (h : Spelled raw text)
    (h' : Spelled raw' text') : Spelled (raw ++ raw') (text ++ text') := by
  induction h with
  | nil => exact h'
  | cons hchar _ ih =>
    rw [List.append_assoc]
    exact .cons hchar ih

theorem SpelledChar.spelled {raw : List Char} {c : Char} (h : SpelledChar raw c) :
    Spelled raw [c] := by
  simpa using Spelled.cons h .nil

def standsForItself (c : Char) : Bool := c != '"' && c != '\\' && !decide (c < ' ')

/-- Text without quotes, backslashes and control characters may stand for itself. -/
theorem spelled_self {text : List Char} (h : text.all standsForItself = true) :
    Spelled text text := by
  induction text with
  | nil => exact .nil
  | cons c text ih =>
    obtain ⟨hc, htext⟩ := by simpa only [List.all_cons, Bool.and_eq_true] using h
    simp only [standsForItself, Bool.and_eq_true, bne_iff_ne, Bool.not_eq_true',
      decide_eq_false_iff_not] at hc
    obtain ⟨⟨hquote, hslash⟩, hcontrol⟩ := hc
    exact Spelled.cons (.plain hquote hslash hcontrol) (ih htext)

theorem spelled_pair : Spelled "\\ud83d\\ude00".toList ['😀'] := by
  have hhigh : HexUnit ['d', '8', '3', 'd'] 0xD83D :=
    @HexUnit.mk 'd' '8' '3' 'd' 13 8 3 13 rfl rfl rfl rfl
  have hlow : HexUnit ['d', 'e', '0', '0'] 0xDE00 :=
    @HexUnit.mk 'd' 'e' '0' '0' 13 14 0 0 rfl rfl rfl rfl
  have hpair := (SpelledChar.pair hhigh hlow (by decide) (by decide)
    (show ('😀' : Char).toNat = _ by decide)).spelled
  have htext : "\\ud83d\\ude00".toList =
      '\\' :: 'u' :: (['d', '8', '3', 'd'] ++ '\\' :: 'u' :: ['d', 'e', '0', '0']) := by
    decide +kernel
  rwa [htext]

theorem toNat_of_hexDigit? {c : Char} {n : Nat} (h : hexDigit? c = some n) :
    48 ≤ c.toNat ∧ c.toNat ≤ 57 ∨ 65 ≤ c.toNat ∧ c.toNat ≤ 70 ∨
      97 ≤ c.toNat ∧ c.toNat ≤ 102 := by
  unfold hexDigit? at h
  split at h
  · next hc => exact Or.inl ⟨UInt32.le_iff_toNat_le.mp hc.1, UInt32.le_iff_toNat_le.mp hc.2⟩
  · split at h
    · next hc =>
      exact Or.inr (Or.inr ⟨UInt32.le_iff_toNat_le.mp hc.1, UInt32.le_iff_toNat_le.mp hc.2⟩)
    · split at h
      · next hc =>
        exact Or.inr (Or.inl ⟨UInt32.le_iff_toNat_le.mp hc.1, UInt32.le_iff_toNat_le.mp hc.2⟩)
      · cases h

theorem char_of_hexDigit? {c : Char} {n : Nat} (h : hexDigit? c = some n) :
    c.utf8Size = 1 ∧ c ≠ '"' ∧ c ≠ '\\' := by
  have hc := toNat_of_hexDigit? h
  refine ⟨?_, ?_, ?_⟩
  · rw [Char.utf8Size_eq_one_iff, UInt32.le_iff_toNat_le]
    change c.toNat ≤ 127
    omega
  · rintro rfl
    simp at hc
  · rintro rfl
    simp at hc

namespace Literal

/-- The literal after a character that does not end it. -/
def more? (literal : Literal) (c : Char) : Option Literal :=
  match literal.step c with
  | .ok (.more next) => some next
  | .ok (.closed _) => none
  | .error _ => none

def mores? (literal : Literal) (text : List Char) : Option Literal := text.foldlM more? literal

theorem mores?_cons {literal next : Literal} {c : Char} {text : List Char}
    (h : literal.step c = .ok (.more next)) : literal.mores? (c :: text) = next.mores? text := by
  simp only [mores?, List.foldlM_cons, more?, h]
  rfl

theorem mores?_append {literal next : Literal} {front back : List Char}
    (h : literal.mores? front = some next) :
    literal.mores? (front ++ back) = next.mores? back := by
  unfold mores? at *
  rw [List.foldlM_append, h]
  rfl

theorem step_hexDigit {read : List Char} {lead : Option Nat} {bytes v n : Nat} {c : Char}
    (hc : hexDigit? c = some n) (hbytes : bytes < 3) :
    (⟨read, .hex lead bytes (some v)⟩ : Literal).step c =
      .ok (.more ⟨read, .hex lead (bytes + 1) (some (16 * v + n))⟩) := by
  obtain ⟨hsize, -⟩ := char_of_hexDigit? hc
  have hlast : bytes + 1 < 4 := by omega
  simp only [step, hexStep, hsize, if_pos hlast, hc, Option.bind_some, Option.map_some]
  rfl

theorem step_lastDigit {read : List Char} {lead : Option Nat} {v n : Nat} {c : Char}
    {next : Literal} (hc : hexDigit? c = some n)
    (hunit : unit ⟨read, .hex lead 3 (some v)⟩ lead (16 * v + n) = .ok next) :
    (⟨read, .hex lead 3 (some v)⟩ : Literal).step c = .ok (.more next) := by
  obtain ⟨hsize, -⟩ := char_of_hexDigit? hc
  simp only [step, hexStep, hsize, hc, Option.bind_some, Option.map_some, hunit]
  rfl

/-- Four digits make a unit, whatever was read before them. -/
theorem mores?_hexUnit {read digits : List Char} {lead : Option Nat} {n : Nat} {next : Literal}
    (h : HexUnit digits n)
    (hunit : ∀ stage, unit ⟨read, stage⟩ lead n = .ok next) :
    (⟨read, .hex lead 0 (some 0)⟩ : Literal).mores? digits = some next := by
  cases h with
  | mk ha hb hc hd =>
    rw [mores?_cons (step_hexDigit ha (by decide)), mores?_cons (step_hexDigit hb (by decide)),
      mores?_cons (step_hexDigit hc (by decide))]
    simp only [Nat.mul_zero, Nat.zero_add]
    exact mores?_cons (step_lastDigit hd (hunit _))

end Literal

theorem not_surrogate (c : Char) : isLeading c.toNat = false ∧ isTrailing c.toNat = false := by
  have hvalid : c.toNat < 0xD800 ∨ 0xDFFF < c.toNat ∧ c.toNat < 0x110000 := c.valid
  simp only [isLeading, isTrailing, Bool.and_eq_false_iff, decide_eq_false_iff_not]
  omega

/-- The reader takes a written character back. -/
theorem SpelledChar.mores? {raw : List Char} {c : Char} (h : SpelledChar raw c)
    (read : List Char) :
    (⟨read, .plain⟩ : Literal).mores? raw = some ⟨c :: read, .plain⟩ := by
  cases h with
  | plain hquote hslash hcontrol =>
    rw [mores?_cons (by simp only [step, if_neg hquote, if_neg hslash, if_neg hcontrol]; rfl)]
    rfl
  | @short letter c h =>
    have hstep : (⟨read, .backslash⟩ : Literal).step letter = .ok (.more ⟨c :: read, .plain⟩) := by
      have hescaped : ∀ p ∈ shortEscapes, p.1 ≠ 'u' ∧ escaped? p.1 = some p.2 := by decide
      obtain ⟨hletter, hc⟩ := hescaped (letter, c) h
      simp only [step, if_neg hletter, hc]
      rfl
    exact (mores?_cons rfl).trans (mores?_cons hstep)
  | @unit digits c h =>
    have hunit : ∀ stage, Literal.unit ⟨read, stage⟩ none c.toNat = .ok ⟨c :: read, .plain⟩ := by
      intro stage
      simp only [Literal.unit, not_surrogate c, Bool.false_eq_true, if_false, push,
        Char.ofNat_toNat]
    exact mores?_hexUnit h hunit
  | @pair high low n m c hhigh hlow hn hm hc =>
    have hlead : ∀ stage, Literal.unit ⟨read, stage⟩ none n = .ok ⟨read, .pairBackslash n⟩ := by
      intro stage
      have hnot : isTrailing n = false := by
        simp only [isLeading, isTrailing, Bool.and_eq_true, decide_eq_true_eq,
          Bool.and_eq_false_iff, decide_eq_false_iff_not] at hn ⊢
        omega
      simp only [Literal.unit, hnot, hn, Bool.false_eq_true, if_false, if_true]
    have htrail : ∀ stage, Literal.unit ⟨read, stage⟩ (some n) m = .ok ⟨c :: read, .plain⟩ := by
      intro stage
      simp only [Literal.unit, hm, if_true, push, Literal.pair, ← hc, Char.ofNat_toNat]
    have hfirst : (⟨read, .plain⟩ : Literal).mores? ('\\' :: 'u' :: high) =
        some ⟨read, .pairBackslash n⟩ := mores?_hexUnit hhigh hlead
    rw [← List.cons_append, ← List.cons_append, mores?_append hfirst]
    exact mores?_hexUnit hlow htrail

/-- The reader takes a written text back, the last character first. -/
theorem Spelled.mores? {raw text : List Char} (h : Spelled raw text) (read : List Char) :
    (⟨read, .plain⟩ : Literal).mores? raw = some ⟨text.reverse ++ read, .plain⟩ := by
  induction h generalizing read with
  | nil => rfl
  | cons hchar _ ih =>
    rw [mores?_append (hchar.mores? read), ih, List.reverse_cons, List.append_assoc]
    rfl

/-- No part of a written text closes the literal. -/
theorem SpelledChar.afterClosing? {raw : List Char} {c : Char} (h : SpelledChar raw c)
    (rest : List Char) : Region.afterClosing? (raw ++ rest) = Region.afterClosing? rest := by
  have hunit : ∀ {digits later : List Char} {n : Nat}, HexUnit digits n →
      Region.afterClosing? ('\\' :: 'u' :: (digits ++ later)) = Region.afterClosing? later := by
    intro digits later n hdigits
    cases hdigits with
    | mk ha hb hc hd =>
      obtain ⟨-, hqa, hsa⟩ := char_of_hexDigit? ha
      obtain ⟨-, hqb, hsb⟩ := char_of_hexDigit? hb
      obtain ⟨-, hqc, hsc⟩ := char_of_hexDigit? hc
      obtain ⟨-, hqd, hsd⟩ := char_of_hexDigit? hd
      simp only [Region.afterClosing?, List.cons_append, List.nil_append,
        Region.afterClosing?_cons hqa hsa, Region.afterClosing?_cons hqb hsb,
        Region.afterClosing?_cons hqc hsc, Region.afterClosing?_cons hqd hsd]
  cases h with
  | plain hquote hslash => exact Region.afterClosing?_cons hquote hslash rest
  | short => rfl
  | unit h => exact hunit h
  | @pair high low n m c hhigh hlow =>
    have hsplit : '\\' :: 'u' :: (high ++ '\\' :: 'u' :: low) ++ rest =
        '\\' :: 'u' :: (high ++ ('\\' :: 'u' :: (low ++ rest))) := by simp
    rw [hsplit, hunit hhigh, hunit hlow]

theorem Spelled.afterClosing? {raw text : List Char} (h : Spelled raw text) (rest : List Char) :
    Region.afterClosing? (raw ++ rest) = Region.afterClosing? rest := by
  induction h with
  | nil => rfl
  | cons hchar _ ih => rw [List.append_assoc, hchar.afterClosing?, ih]

namespace Reader

/-- The phases within a literal, that of a value or that of a key. -/
def LiteralPhase (phase : Literal → Phase) : Prop :=
  phase = .text ∨ ∃ before, phase = .keyText before

theorem steps_mores? {stack : List Frame} {phase : Literal → Phase} {literal next : Literal}
    {raw : List Char} (hphase : LiteralPhase phase) (h : literal.mores? raw = some next) :
    (⟨stack, phase literal⟩ : Reader).steps raw = .ok ⟨stack, phase next⟩ := by
  induction raw generalizing literal with
  | nil =>
    obtain rfl := Option.some.inj h
    rfl
  | cons c raw ih =>
    obtain ⟨middle, hmore, hrest⟩ := Option.bind_eq_some_iff.mp h
    have hliteral : literal.step c = .ok (.more middle) := by
      unfold more? at hmore
      split at hmore
      · next heq => rw [heq, Option.some.inj hmore]
      · cases hmore
      · cases hmore
    have hstep : (⟨stack, phase literal⟩ : Reader).step c = .ok ⟨stack, phase middle⟩ := by
      rcases hphase with rfl | ⟨before, rfl⟩
      · simp only [step, hliteral]
        rfl
      · simp only [step, hliteral]
        rfl
    exact steps_cons hstep (ih hrest)

theorem steps_between {stack : List Frame} {phase : Literal → Phase} {raw text : List Char}
    (hphase : LiteralPhase phase) (h : Spelled raw text) :
    (⟨stack, phase .empty⟩ : Reader).steps raw = .ok ⟨stack, phase ⟨text.reverse, .plain⟩⟩ := by
  have hread := h.mores? []
  rw [List.append_nil] at hread
  exact steps_mores? hphase hread

theorem steps_spelled {stack : List Frame} {closable : Bool} {raw text : List Char}
    (h : Spelled raw text) :
    (⟨stack, .value closable⟩ : Reader).steps ('"' :: (raw ++ ['"'])) =
      .ok ⟨stack, .ended (.text (String.ofList text))⟩ := by
  have hbetween : (⟨stack, .text .empty⟩ : Reader).steps raw = _ := steps_between (Or.inl rfl) h
  have hclose : (⟨stack, .text ⟨text.reverse, .plain⟩⟩ : Reader).steps ['"'] =
      .ok ⟨stack, .ended (.text (String.ofList text.reverse.reverse))⟩ := rfl
  rw [List.reverse_reverse] at hclose
  exact steps_cons rfl (steps_append hbetween hclose)

/-- As a key, it waits for the colon. -/
theorem steps_spelledKey {stack : List Frame} {before : Members} {closable : Bool}
    {raw text : List Char} (h : Spelled raw text) :
    (⟨stack, .key before closable⟩ : Reader).steps ('"' :: (raw ++ ['"'])) =
      .ok ⟨stack, .colon before (String.ofList text)⟩ := by
  have hbetween : (⟨stack, .keyText before .empty⟩ : Reader).steps raw = _ :=
    steps_between (Or.inr ⟨before, rfl⟩) h
  have hclose : (⟨stack, .keyText before ⟨text.reverse, .plain⟩⟩ : Reader).steps ['"'] =
      .ok ⟨stack, .colon before (String.ofList text.reverse.reverse)⟩ := rfl
  rw [List.reverse_reverse] at hclose
  exact steps_cons rfl (steps_append hbetween hclose)

end Reader

end DocBlocks.Json
