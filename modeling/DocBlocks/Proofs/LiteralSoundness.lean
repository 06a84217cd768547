import DocBlocks.Proofs.ReaderQuoting

/-!
What the reader takes between two quotes is the writing of a text. A literal that goes on
until a value is completed is cut into the writings of its characters, a plain character, a
short escape, or one or two units of four digits each.
-/
namespace DocBlocks.Json

open Literal

theorem lt_of_hexDigit? {c : Char} {n : Nat} (h : hexDigit? c = some n) : n < 16 := by
  have hzero : '0'.toNat = 48 := rfl
  have hsmall : 'a'.toNat = 97 := rfl
  have hlarge : 'A'.toNat = 65 := rfl
  unfold hexDigit? at h
  split at h
  · next hc =>
    have hupper : c.toNat ≤ 57 := UInt32.le_iff_toNat_le.mp hc.2
    have := Option.some.inj h
    omega
  · split at h
    · next hc =>
      have hupper : c.toNat ≤ 102 := UInt32.le_iff_toNat_le.mp hc.2
      have := Option.some.inj h
      omega
    · split at h
      · next hc =>
        have hupper : c.toNat ≤ 70 := UInt32.le_iff_toNat_le.mp hc.2
        have := Option.some.inj h
        omega
      · cases h

theorem HexUnit.lt {digits : List Char} {n : Nat} (h : HexUnit digits n) : n < 0x10000 := by
  cases h with
  | mk ha hb hc hd =>
    have := lt_of_hexDigit? ha
    have := lt_of_hexDigit? hb
    have := lt_of_hexDigit? hc
    have := lt_of_hexDigit? hd
    omega

theorem mem_shortEscapes {letter c : Char} (h : escaped? letter = some c) :
    (letter, c) ∈ shortEscapes := by
  unfold escaped? at h
  split at h
  · next hsame =>
    obtain rfl := Option.some.inj h
    rcases hsame with hletter | hletter | hletter <;> subst hletter <;> decide
  · repeat' split at h
    all_goals cases h
    all_goals
      next hletter =>
        subst hletter
        decide

theorem toNat_of_isValidChar {n : Nat} (h : n.isValidChar) : (Char.ofNat n).toNat = n := by
  have hchar : Char.ofNat n = Char.ofNatAux n h := dif_pos h
  exact congrArg Char.toNat hchar

/-- A number of 16 bits that is no half of a pair is the code of a character. -/
theorem toNat_unit {n : Nat} (h : n < 0x10000) (hleading : ¬ isLeading n)
    (htrailing : ¬ isTrailing n) : (Char.ofNat n).toNat = n := by
  apply toNat_of_isValidChar
  simp only [isLeading, isTrailing, Bool.and_eq_true, decide_eq_true_eq] at hleading htrailing
  show n < 0xD800 ∨ 0xDFFF < n ∧ n < 0x110000
  omega

theorem toNat_pair {lead trail : Nat} (hlead : isLeading lead) (htrail : isTrailing trail) :
    (pair lead trail).toNat = 0x10000 + (lead - 0xD800) * 0x400 + (trail - 0xDC00) := by
  apply toNat_of_isValidChar
  simp only [isLeading, isTrailing, Bool.and_eq_true, decide_eq_true_eq] at hlead htrail
  show _ < 0xD800 ∨ 0xDFFF < _ ∧ _ < 0x110000
  omega

theorem plain_of_closed {literal : Literal} {c : Char} {closed : String}
    (h : literal.step c = .ok (.closed closed)) :
    literal.stage = .plain ∧ c = '"' ∧ closed = String.ofList literal.read.reverse := by
  obtain ⟨read, stage⟩ := literal
  cases stage with
  | plain =>
    simp only [step] at h
    split at h
    · next hquote => exact ⟨rfl, hquote, (Progress.closed.inj (Except.ok.inj h)).symm⟩
    · split at h
      · cases h
      · split at h <;> cases h
  | backslash =>
    simp only [step] at h
    split at h
    · cases h
    · split at h <;> cases h
  | hex lead bytes value =>
    obtain ⟨next, -, hclosed⟩ := map_eq_ok_iff.mp h
    cases hclosed
  | pairBackslash lead =>
    simp only [step] at h
    split at h <;> cases h
  | pairLetter lead =>
    simp only [step] at h
    split at h <;> cases h

/-- A digit is taken up by its escape, and the fourth ends that. -/
theorem hexStep_digit {literal : Literal} {lead : Option Nat} {bytes v n : Nat} {c : Char}
    (hc : hexDigit? c = some n) :
    literal.hexStep lead bytes (some v) c =
      if bytes + 1 < 4 then .ok ⟨literal.read, .hex lead (bytes + 1) (some (16 * v + n))⟩
      else (literal.unit lead (16 * v + n)).mapError (⟨·, 4 - bytes⟩) := by
  obtain ⟨hsize, -⟩ := char_of_hexDigit? hc
  simp only [hexStep, hsize, hc, Option.bind_some, Option.map_some]

namespace Reader

variable {stack : List Frame} {read text : List Char} {value : Value}

theorem not_completes_nil {literal : Literal} :
    ¬ (⟨stack, .text literal⟩ : Reader).Completes [] value := by
  intro h
  obtain ⟨last, hsteps, hfinish⟩ := h
  obtain rfl := Except.ok.inj hsteps
  cases hfinish

/-- A literal is over at a quote, and then it is closed, or else it goes on. -/
theorem completes_text_cons {literal : Literal} {c : Char}
    (h : (⟨stack, .text literal⟩ : Reader).Completes (c :: text) value) :
    (literal.stage = .plain ∧ c = '"' ∧
        (⟨stack, .ended (.text (String.ofList literal.read.reverse))⟩ : Reader).Completes
          text value) ∨
      ∃ next, literal.step c = .ok (.more next) ∧ ¬ next.stage.Doomed ∧
        (⟨stack, .text next⟩ : Reader).Completes text value := by
  obtain ⟨reader, hstep, hrest⟩ := completes_cons_iff.mp h
  obtain ⟨progress, hprogress, hreader⟩ := map_eq_ok_iff.mp hstep
  subst hreader
  cases progress with
  | more next => exact Or.inr ⟨next, hprogress, not_doomed_of_completes hrest, hrest⟩
  | closed closed =>
    obtain ⟨hplain, hquote, hclosed⟩ := plain_of_closed hprogress
    subst hclosed
    exact Or.inl ⟨hplain, hquote, hrest⟩

theorem completes_within {literal : Literal} (hstage : literal.stage ≠ .plain)
    (h : (⟨stack, .text literal⟩ : Reader).Completes text value) :
    ∃ c rest next, text = c :: rest ∧ literal.step c = .ok (.more next) ∧
      ¬ next.stage.Doomed ∧ (⟨stack, .text next⟩ : Reader).Completes rest value := by
  cases text with
  | nil => exact absurd h not_completes_nil
  | cons c rest =>
    rcases completes_text_cons h with ⟨hplain, -⟩ | ⟨next, hstep, hlive, hrest⟩
    · exact absurd hplain hstage
    · exact ⟨c, rest, next, rfl, hstep, hlive, hrest⟩

theorem completes_hex {lead : Option Nat} {bytes v : Nat}
    (h : (⟨stack, .text ⟨read, .hex lead bytes (some v)⟩⟩ : Reader).Completes text value) :
    ∃ c n rest next, text = c :: rest ∧ hexDigit? c = some n ∧
      (⟨read, .hex lead bytes (some v)⟩ : Literal).hexStep lead bytes (some v) c = .ok next ∧
      (⟨stack, .text next⟩ : Reader).Completes rest value := by
  obtain ⟨c, rest, next, htext, hstep, hlive, hrest⟩ := completes_within Stage.noConfusion h
  obtain ⟨made, hhex, hmade⟩ := map_eq_ok_iff.mp hstep
  obtain rfl := Progress.more.inj hmade
  rcases hexStep_cases hhex with hdoomed | ⟨-, ⟨n, hdigit⟩, -⟩
  · exact absurd hdoomed hlive
  · exact ⟨c, n, rest, made, htext, hdigit, hhex, hrest⟩

theorem completes_unit {lead : Option Nat}
    (h : (⟨stack, .text ⟨read, .hex lead 0 (some 0)⟩⟩ : Reader).Completes text value) :
    ∃ digits n rest next, text = digits ++ rest ∧ HexUnit digits n ∧
      unit ⟨read, .plain⟩ lead n = .ok next ∧
      (⟨stack, .text next⟩ : Reader).Completes rest value := by
  obtain ⟨a, i, afterA, next, rfl, ha, hstep, hbehindA⟩ := completes_hex h
  rw [hexStep_digit ha] at hstep
  obtain rfl := Except.ok.inj hstep
  obtain ⟨b, j, afterB, next, rfl, hb, hstep, hbehindB⟩ := completes_hex hbehindA
  rw [hexStep_digit hb] at hstep
  obtain rfl := Except.ok.inj hstep
  obtain ⟨c, k, afterC, next, rfl, hc, hstep, hbehindC⟩ := completes_hex hbehindB
  rw [hexStep_digit hc] at hstep
  obtain rfl := Except.ok.inj hstep
  obtain ⟨d, l, rest, next, rfl, hd, hstep, hrest⟩ := completes_hex hbehindC
  rw [hexStep_digit hd, if_neg (by decide)] at hstep
  have hunit := mapError_eq_ok_iff.mp hstep
  have hnumber : HexUnit [a, b, c, d] (16 * (16 * (16 * i + j) + k) + l) := .mk ha hb hc hd
  simp only [Nat.mul_zero, Nat.zero_add] at hunit
  refine ⟨[a, b, c, d], _, rest, next, rfl, hnumber, ?_, hrest⟩
  cases lead with
  | none => exact hunit
  | some lead => exact hunit

/-- A leading half is followed by the escape of a trailing one. -/
theorem completes_pair {lead : Nat}
    (h : (⟨stack, .text ⟨read, .pairBackslash lead⟩⟩ : Reader).Completes text value) :
    ∃ digits trail rest, text = '\\' :: 'u' :: (digits ++ rest) ∧ HexUnit digits trail ∧
      isTrailing trail ∧
      (⟨stack, .text ⟨pair lead trail :: read, .plain⟩⟩ : Reader).Completes rest value := by
  obtain ⟨c, afterC, next, rfl, hstep, -, hbehindC⟩ := completes_within Stage.noConfusion h
  simp only [Literal.step] at hstep
  split at hstep
  · next hslash =>
    obtain rfl := Progress.more.inj (Except.ok.inj hstep)
    obtain ⟨d, afterD, next, rfl, hstep, -, hbehindD⟩ := completes_within Stage.noConfusion hbehindC
    simp only [Literal.step] at hstep
    split at hstep
    · next hletter =>
      obtain rfl := Progress.more.inj (Except.ok.inj hstep)
      obtain ⟨digits, trail, rest, next, rfl, hdigits, hunit, hrest⟩ := completes_unit hbehindD
      simp only [unit] at hunit
      split at hunit
      · next htrailing =>
        obtain rfl := Except.ok.inj hunit
        exact ⟨digits, trail, rest, by rw [hslash, hletter], hdigits, htrailing, hrest⟩
      · cases hunit
    · cases hstep
  · cases hstep

theorem completes_escape
    (h : (⟨stack, .text ⟨read, .backslash⟩⟩ : Reader).Completes text value) :
    ∃ raw d rest, text = raw ++ rest ∧ SpelledChar ('\\' :: raw) d ∧
      (⟨stack, .text ⟨d :: read, .plain⟩⟩ : Reader).Completes rest value := by
  obtain ⟨c, afterC, next, rfl, hstep, -, hbehindC⟩ := completes_within Stage.noConfusion h
  simp only [Literal.step] at hstep
  split at hstep
  · next hletter =>
    subst hletter
    obtain rfl := Progress.more.inj (Except.ok.inj hstep)
    obtain ⟨digits, n, rest, next, rfl, hdigits, hunit, hrest⟩ := completes_unit hbehindC
    simp only [unit] at hunit
    split at hunit
    · cases hunit
    · next htrailing =>
      split at hunit
      · next hleading =>
        obtain rfl := Except.ok.inj hunit
        obtain ⟨low, trail, rest, rfl, hlow, htrail, hrest⟩ := completes_pair hrest
        have hpair := SpelledChar.pair hdigits hlow hleading htrail (toNat_pair hleading htrail)
        refine ⟨_, _, rest, ?_, hpair, hrest⟩
        simp
      · next hleading =>
        obtain rfl := Except.ok.inj hunit
        have hcode := toNat_unit hdigits.lt hleading htrailing
        refine ⟨'u' :: digits, Char.ofNat n, rest, rfl, .unit ?_, hrest⟩
        rw [hcode]
        exact hdigits
  · split at hstep
    · next e hescaped =>
      obtain rfl := Progress.more.inj (Except.ok.inj hstep)
      exact ⟨[c], e, afterC, rfl, .short (mem_shortEscapes hescaped), hbehindC⟩
    · cases hstep

/-- A literal that is not closed yet begins with the writing of a character. -/
theorem completes_char {c : Char} {next : Literal}
    (hstep : (⟨read, .plain⟩ : Literal).step c = .ok (.more next))
    (h : (⟨stack, .text next⟩ : Reader).Completes text value) :
    ∃ raw d rest, c :: text = raw ++ rest ∧ raw ≠ [] ∧ SpelledChar raw d ∧
      (⟨stack, .text ⟨d :: read, .plain⟩⟩ : Reader).Completes rest value := by
  simp only [Literal.step] at hstep
  split at hstep
  · cases hstep
  · next hquote =>
    split at hstep
    · next hslash =>
      obtain rfl := Progress.more.inj (Except.ok.inj hstep)
      obtain ⟨raw, d, rest, htext, hchar, hrest⟩ := completes_escape h
      refine ⟨'\\' :: raw, d, rest, ?_, List.cons_ne_nil _ _, hchar, hrest⟩
      rw [hslash, htext, List.cons_append]
    · next hslash =>
      split at hstep
      · cases hstep
      · next hcontrol =>
        obtain rfl := Progress.more.inj (Except.ok.inj hstep)
        have hchar : SpelledChar [c] c := .plain hquote hslash hcontrol
        exact ⟨[c], c, text, rfl, List.cons_ne_nil _ _, hchar, h⟩

/-- Up to its closing quote a literal is the writing of a text, and that is what is read. -/
theorem spelled_of_completes
    (h : (⟨stack, .text ⟨read, .plain⟩⟩ : Reader).Completes text value) :
    ∃ raw written rest, text = raw ++ '"' :: rest ∧ Spelled raw written ∧
      (⟨stack, .ended (.text (String.ofList (read.reverse ++ written)))⟩ : Reader).Completes
        rest value := by
  induction hlength : text.length using Nat.strongRecOn generalizing text read with
  | ind length ih =>
    cases text with
    | nil => exact absurd h not_completes_nil
    | cons c text =>
      rcases completes_text_cons h with ⟨-, hquote, hrest⟩ | ⟨next, hstep, -, hnext⟩
      · subst hquote
        refine ⟨[], [], text, rfl, .nil, ?_⟩
        rwa [List.append_nil]
      · obtain ⟨raw, d, later, htext, hraw, hchar, hlater⟩ := completes_char hstep hnext
        have hshorter : later.length < length := by
          rw [← hlength, htext, List.length_append]
          have hsome := List.length_pos_of_ne_nil hraw
          omega
        obtain ⟨raws, written, rest, hsplit, hspelled, hrest⟩ :=
          ih later.length hshorter hlater rfl
        rw [List.reverse_cons, List.append_assoc] at hrest
        refine ⟨raw ++ raws, d :: written, rest, ?_, .cons hchar hspelled, hrest⟩
        rw [htext, hsplit, List.append_assoc]

end Reader

end DocBlocks.Json
