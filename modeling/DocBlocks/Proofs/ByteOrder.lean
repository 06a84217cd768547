import Mathlib.Data.List.Lex
import Mathlib.Data.String.Basic
import Mathlib.Tactic.SplitIfs

/-!
The order of texts and that of their bytes. A character that comes later has, at the
first byte where the two differ, the greater one; so texts stand in the same order
whether they are compared by characters or by bytes.
-/
namespace DocBlocks.Text

/-- A text as UTF-8. -/
def bytes (text : String) : List UInt8 := text.toUTF8.data.toList

theorem bytes_eq_flatMap (text : String) :
    bytes text = text.toList.flatMap String.utf8EncodeChar := by
  have hbytes : text.toUTF8 = text.toList.utf8Encode := String.utf8Encode_toList.symm
  rw [bytes, hbytes, List.utf8Encode, List.toList_data_toByteArray]

/-- Of two characters the bytes decide, whatever stands behind them. -/
theorem utf8EncodeChar_append_lt {c d : Char} (h : c < d) (rest more : List UInt8) :
    String.utf8EncodeChar c ++ rest < String.utf8EncodeChar d ++ more := by
  have hlt : c.val.toNat < d.val.toNat := h
  have hmax : d.val.toNat < 0x110000 := by
    rcases d.valid with hd | ⟨_, hd⟩
    · omega
    · exact hd
  simp only [String.utf8EncodeChar]
  -- one case for each pair of lengths; more bytes begin with a greater one
  split_ifs
  all_goals
    simp only [List.cons_append, List.nil_append, List.cons_lt_cons_iff, UInt8.lt_iff_toNat_lt,
      ← UInt8.toNat_inj, UInt8.toNat_ofNat']
    simp (disch := omega) only [Nat.mod_eq_of_lt]
    omega

theorem flatMap_lt_flatMap {text other : List Char} (h : text < other) :
    text.flatMap String.utf8EncodeChar < other.flatMap String.utf8EncodeChar := by
  induction text generalizing other with
  | nil =>
    cases other with
    | nil => exact absurd h (List.lt_irrefl _)
    | cons d other =>
      rw [List.flatMap_cons]
      obtain ⟨b, rest, hb⟩ := List.exists_cons_of_ne_nil (String.utf8EncodeChar_ne_nil (c := d))
      rw [hb]
      exact List.nil_lt_cons _ _
  | cons c text ih =>
    cases other with
    | nil => exact absurd h (List.not_lt_nil _)
    | cons d other =>
      rw [List.flatMap_cons, List.flatMap_cons]
      rcases List.cons_lt_cons_iff.mp h with hfirst | ⟨rfl, hrest⟩
      · exact utf8EncodeChar_append_lt hfirst _ _
      · exact List.Lex.append_left _ (ih hrest) _

/-- Texts are ordered as their bytes are. -/
theorem bytes_lt_bytes_iff {text other : String} : bytes text < bytes other ↔ text < other := by
  rw [bytes_eq_flatMap, bytes_eq_flatMap, String.lt_iff_toList_lt]
  constructor
  · intro h
    rcases lt_trichotomy text.toList other.toList with hlt | heq | hgt
    · exact hlt
    · rw [heq] at h
      exact absurd h (List.lt_irrefl _)
    · exact absurd h (List.lt_asymm (flatMap_lt_flatMap hgt))
  · exact flatMap_lt_flatMap

end DocBlocks.Text
