import DocBlocks.Proofs.Quoting

/-!
The search for a literal left open, told by offsets in bytes. A turn of the search cuts the
text at an offset, looks for the quote that opens a literal behind it and for the one that
closes it, and goes on behind that. Wherever it goes on, a single pass over the text up to
there stands outside of any literal; so the search ends where the pass does, at the quote
that opened the literal the pass ends in.
-/
namespace DocBlocks

namespace Text

def size (text : List Char) : Nat := (String.ofList text).utf8ByteSize

theorem size_nil : size [] = 0 := rfl

theorem size_cons (c : Char) (text : List Char) : size (c :: text) = c.utf8Size + size text := by
  rw [size, size, String.ofList_cons, String.utf8ByteSize_append, String.utf8ByteSize_singleton]

theorem size_append (front back : List Char) : size (front ++ back) = size front + size back := by
  rw [size, size, size, String.ofList_append, String.utf8ByteSize_append]

theorem size_concat_quote (text : List Char) : size (text ++ ['"']) = size text + 1 := by
  rw [size_append]
  rfl

theorem size_pos {text : List Char} (h : text ≠ []) : 0 < size text := by
  cases text with
  | nil => exact absurd rfl h
  | cons c text =>
    have hpos := c.utf8Size_pos
    rw [size_cons]
    omega

/-- The text behind an offset, which must not lie beyond the text or within a character. -/
def dropBytes? : List Char → Nat → Option (List Char)
  | text, 0 => some text
  | [], _ + 1 => none
  | c :: rest, offset + 1 =>
      if c.utf8Size ≤ offset + 1 then dropBytes? rest (offset + 1 - c.utf8Size) else none

theorem dropBytes?_append (front back : List Char) :
    dropBytes? (front ++ back) (size front) = some back := by
  induction front with
  | nil =>
    rw [List.nil_append, size_nil]
    cases back <;> rfl
  | cons c front ih =>
    have hpos := c.utf8Size_pos
    rw [List.cons_append, size_cons]
    obtain ⟨offset, hoffset⟩ := Nat.exists_eq_add_of_lt (Nat.add_pos_left hpos (size front))
    rw [Nat.zero_add] at hoffset
    have hwithin : c.utf8Size ≤ offset + 1 := by omega
    have hbehind : offset + 1 - c.utf8Size = size front := by omega
    rw [hoffset, dropBytes?, if_pos hwithin, hbehind, ih]

end Text

namespace Region

open Text

def quoteOffset? : List Char → Option Nat
  | [] => none
  | c :: rest => if c = '"' then some 0 else (quoteOffset? rest).map (c.utf8Size + ·)

/-- The offset of the closing quote, for text that begins inside a literal. -/
def closingOffset? (escaped : Bool) : List Char → Option Nat
  | [] => none
  | c :: rest =>
      if escaped = false ∧ c = '"' then some 0
      else (closingOffset? (decide (escaped = false ∧ c = '\\')) rest).map (c.utf8Size + ·)

/-- What a turn of the search comes to: its result, or an offset to go on at. -/
inductive Turn
  | ended (result : Option Nat)
  | onward (offset : Nat)
  deriving DecidableEq

/-- A turn that begins at an offset, if the text can be cut where the turn cuts it. -/
def turn? (text : List Char) (offset : Nat) : Option Turn := do
  let ahead ← dropBytes? text offset
  match quoteOffset? ahead with
  | none => return .ended none
  | some quote =>
      let start := offset + quote + 1
      let opened ← dropBytes? text start
      match closingOffset? false opened with
      | none => return .ended (some start)
      | some closing => return .onward (start + closing + 1)

/-- The search comes to an offset and takes a turn there. -/
inductive Visits (text : List Char) : Nat → Prop
  | start : Visits text 0
  | onward {offset next : Nat} (visited : Visits text offset)
      (h : turn? text offset = some (.onward next)) : Visits text next

/-- The turns from an offset on end with a result. -/
inductive Returns (text : List Char) : Nat → Option Nat → Prop
  | ended {offset : Nat} {result : Option Nat} (h : turn? text offset = some (.ended result)) :
      Returns text offset result
  | onward {offset next : Nat} {result : Option Nat}
      (h : turn? text offset = some (.onward next)) (later : Returns text next result) :
      Returns text offset result

theorem quoteOffset?_of_no_quote {text : List Char} (h : afterQuote? text = none) :
    quoteOffset? text = none := by
  induction text with
  | nil => rfl
  | cons c text ih =>
    unfold afterQuote? at h
    split at h
    · cases h
    · next hc => rw [quoteOffset?, if_neg hc, ih h, Option.map_none]

theorem exists_quote {text rest : List Char} (h : afterQuote? text = some rest) :
    ∃ front, text = front ++ '"' :: rest ∧ quoteOffset? text = some (size front) ∧
      Quoting.outside.run front = .outside := by
  induction text with
  | nil => cases h
  | cons c text ih =>
    unfold afterQuote? at h
    split at h
    · next hc =>
      obtain rfl := Option.some.inj h
      exact ⟨[], by rw [hc, List.nil_append], by rw [quoteOffset?, if_pos hc, size_nil], rfl⟩
    · next hc =>
      obtain ⟨front, htext, hoffset, hrun⟩ := ih h
      have hstep : Quoting.outside.step c = .outside := by simp only [Quoting.step, if_neg hc]
      refine ⟨c :: front, by rw [htext, List.cons_append], ?_, ?_⟩
      · rw [quoteOffset?, if_neg hc, hoffset, Option.map_some, size_cons]
      · rw [Quoting.run, List.foldl_cons, hstep]
        exact hrun

theorem closingOffset?_cons {c : Char} (hquote : c ≠ '"') (hslash : c ≠ '\\') (rest : List Char) :
    closingOffset? false (c :: rest) = (closingOffset? false rest).map (c.utf8Size + ·) := by
  simp only [closingOffset?, hquote, hslash, and_false, if_false, decide_false]

theorem closingOffset?_pair (c : Char) (rest : List Char) :
    closingOffset? false ('\\' :: c :: rest) =
      (closingOffset? false rest).map (size ['\\', c] + ·) := by
  simp [closingOffset?, size_cons, size_nil, Function.comp_def, Nat.add_assoc]

theorem ne_slash_of_step {c : Char} (h : Quoting.inside.step c = .inside) : c ≠ '\\' := by
  rintro rfl
  exact absurd h (by decide)

theorem closingOffset?_of_not_closed {text : List Char} (h : afterClosing? text = none) :
    closingOffset? false text = none := by
  fun_induction afterClosing? text with
  | case1 => rfl
  | case2 => cases h
  | case3 c rest ih => rw [closingOffset?_pair, ih h, Option.map_none]
  | case4 c rest hquote hpair ih =>
    rcases Quoting.step_inside_cases hquote hpair with ⟨rfl, rfl⟩ | hstep
    · rfl
    · rw [closingOffset?_cons hquote (ne_slash_of_step hstep), ih h, Option.map_none]

theorem exists_closing {text rest : List Char} (h : afterClosing? text = some rest) :
    ∃ front, text = front ++ '"' :: rest ∧ closingOffset? false text = some (size front) ∧
      Quoting.inside.run front = .inside := by
  fun_induction afterClosing? text with
  | case1 => cases h
  | case2 rest =>
    obtain rfl := Option.some.inj h
    exact ⟨[], rfl, rfl, rfl⟩
  | case3 c rest ih =>
    obtain ⟨front, htext, hoffset, hrun⟩ := ih h
    refine ⟨'\\' :: c :: front, by rw [htext]; rfl, ?_, hrun⟩
    rw [closingOffset?_pair, hoffset, Option.map_some, ← size_append]
    rfl
  | case4 c rest hquote hpair ih =>
    rcases Quoting.step_inside_cases hquote hpair with ⟨rfl, rfl⟩ | hstep
    · cases h
    · obtain ⟨front, htext, hoffset, hrun⟩ := ih h
      refine ⟨c :: front, by rw [htext, List.cons_append], ?_, ?_⟩
      · rw [closingOffset?_cons hquote (ne_slash_of_step hstep), hoffset, Option.map_some,
          size_cons]
      · rw [Quoting.run, List.foldl_cons, hstep]
        exact hrun

section

variable {ahead part opened rest : List Char}

theorem turn?_of_no_quote (front : List Char) (h : quoteOffset? ahead = none) :
    turn? (front ++ ahead) (size front) = some (.ended none) := by
  simp only [turn?, dropBytes?_append, h, Option.bind_eq_bind, Option.bind_some, Option.pure_def]

/-- Both cuts of a turn stand between two characters of the text. -/
theorem turn?_of_quote (front : List Char)
    (h : quoteOffset? (part ++ '"' :: opened) = some (size part)) :
    turn? (front ++ (part ++ '"' :: opened)) (size front) =
      some (match closingOffset? false opened with
        | none => .ended (some (size (front ++ part ++ ['"'])))
        | some closing => .onward (size (front ++ part ++ ['"']) + closing + 1)) := by
  have hcut : front ++ (part ++ '"' :: opened) = (front ++ part ++ ['"']) ++ opened := by
    simp only [List.append_assoc, List.cons_append, List.nil_append]
  have hstart : size front + size part + 1 = size (front ++ part ++ ['"']) := by
    rw [size_concat_quote, size_append]
  have hopened : dropBytes? (front ++ (part ++ '"' :: opened)) (size (front ++ part ++ ['"'])) =
      some opened := by
    rw [hcut, dropBytes?_append]
  simp only [turn?, dropBytes?_append, h, hstart, hopened, Option.bind_eq_bind, Option.bind_some,
    Option.pure_def]
  cases closingOffset? false opened with
  | none => rfl
  | some closing => rfl

theorem turn?_of_open (front : List Char) (hquote : afterQuote? ahead = some opened)
    (hclose : afterClosing? opened = none) :
    ∃ part, ahead = part ++ '"' :: opened ∧ Quoting.outside.run part = .outside ∧
      turn? (front ++ ahead) (size front) =
        some (.ended (some (size (front ++ part ++ ['"'])))) := by
  obtain ⟨part, rfl, hoffset, hrun⟩ := exists_quote hquote
  refine ⟨part, rfl, hrun, ?_⟩
  rw [turn?_of_quote front hoffset, closingOffset?_of_not_closed hclose]

theorem turn?_of_closed (front : List Char) (hquote : afterQuote? ahead = some opened)
    (hclose : afterClosing? opened = some rest) :
    ∃ part, ahead = part ++ rest ∧ part ≠ [] ∧ Quoting.outside.run part = .outside ∧
      turn? (front ++ ahead) (size front) = some (.onward (size (front ++ part))) := by
  obtain ⟨before, rfl, hoffset, hrun⟩ := exists_quote hquote
  obtain ⟨literal, rfl, hclosing, hinside⟩ := exists_closing hclose
  refine ⟨before ++ '"' :: literal ++ ['"'], by simp, by simp, ?_, ?_⟩
  · rw [Quoting.run_append, Quoting.run_append, hrun]
    change (Quoting.inside.run literal).run ['"'] = .outside
    rw [hinside]
    rfl
  · have hback : front ++ (before ++ '"' :: literal ++ ['"']) =
        front ++ before ++ ['"'] ++ literal ++ ['"'] := by
      simp only [List.append_assoc, List.cons_append, List.nil_append]
    have hsize : size (front ++ (before ++ '"' :: literal ++ ['"'])) =
        size (front ++ before ++ ['"']) + size literal + 1 := by
      rw [hback, size_concat_quote, size_append (front ++ before ++ ['"'])]
    rw [turn?_of_quote front hoffset, hclosing, hsize]

/-- A turn is the last one, or it goes on at a later offset at which a pass is outside. -/
theorem turn?_cases (front ahead : List Char) :
    (∃ result, turn? (front ++ ahead) (size front) = some (.ended result)) ∨
      ∃ part rest, ahead = part ++ rest ∧ part ≠ [] ∧ Quoting.outside.run part = .outside ∧
        turn? (front ++ ahead) (size front) = some (.onward (size (front ++ part))) := by
  cases hquote : afterQuote? ahead with
  | none => exact Or.inl ⟨none, turn?_of_no_quote front (quoteOffset?_of_no_quote hquote)⟩
  | some opened =>
    cases hclose : afterClosing? opened with
    | none =>
      obtain ⟨part, -, -, hturn⟩ := turn?_of_open front hquote hclose
      exact Or.inl ⟨_, hturn⟩
    | some rest =>
      obtain ⟨part, hahead, hpart, hrun, hturn⟩ := turn?_of_closed front hquote hclose
      exact Or.inr ⟨part, rest, hahead, hpart, hrun, hturn⟩

end

/-- The invariant of the search: an offset it comes to stands between two characters, and a
pass over the text up to there ends outside of any literal. -/
theorem Visits.stands {text : List Char} {offset : Nat} (h : Visits text offset) :
    ∃ front ahead, text = front ++ ahead ∧ size front = offset ∧
      Quoting.outside.run front = .outside := by
  induction h with
  | start => exact ⟨[], text, rfl, rfl, rfl⟩
  | onward visited hturn ih =>
    obtain ⟨front, ahead, htext, hoffset, hrun⟩ := ih
    rw [htext, ← hoffset] at hturn
    rcases turn?_cases front ahead with ⟨result, hended⟩ | ⟨part, rest, hahead, -, hpart, hnext⟩
    · rw [hended] at hturn
      cases hturn
    · rw [hnext] at hturn
      cases hturn
      refine ⟨front ++ part, rest, by rw [htext, hahead, List.append_assoc], rfl, ?_⟩
      rw [Quoting.run_append, hrun, hpart]

/-- A turn finds its offsets in the text and moves ahead. -/
theorem Visits.exists_turn {text : List Char} {offset : Nat} (h : Visits text offset) :
    ∃ turn, turn? text offset = some turn ∧
      ∀ next, turn = .onward next → offset < next ∧ next ≤ size text := by
  obtain ⟨front, ahead, rfl, rfl, -⟩ := h.stands
  rcases turn?_cases front ahead with ⟨result, hended⟩ | ⟨part, rest, rfl, hpart, -, hnext⟩
  · refine ⟨_, hended, ?_⟩
    intro next hnext
    cases hnext
  · refine ⟨_, hnext, ?_⟩
    intro next heq
    cases heq
    have hpos := size_pos hpart
    simp only [size_append]
    omega

theorem Returns.unique {text : List Char} {offset : Nat} {result other : Option Nat}
    (h : Returns text offset result) (hother : Returns text offset other) : other = result := by
  induction h with
  | ended hturn =>
    cases hother with
    | ended hsame =>
      rw [hturn] at hsame
      cases hsame
      rfl
    | onward hsame later =>
      rw [hturn] at hsame
      cases hsame
  | onward hturn later ih =>
    cases hother with
    | ended hsame =>
      rw [hturn] at hsame
      cases hsame
    | onward hsame hlater =>
      rw [hturn] at hsame
      cases hsame
      exact ih hlater

/-- From where a pass is outside, the turns end with what the search on lists finds. -/
theorem returns_openTail? (front ahead : List Char) :
    Returns (front ++ ahead) (size front)
      ((openTail? ahead).map fun tail => size (front ++ ahead) - size tail) := by
  fun_induction openTail? ahead generalizing front with
  | case1 ahead hquote =>
    exact .ended (turn?_of_no_quote front (quoteOffset?_of_no_quote hquote))
  | case2 ahead opened hquote hclose =>
    obtain ⟨part, rfl, -, hturn⟩ := turn?_of_open front hquote hclose
    have hstart : size (front ++ (part ++ '"' :: opened)) - size opened =
        size (front ++ part ++ ['"']) := by
      simp only [size_append, size_cons, size_nil]
      omega
    rw [Option.map_some, hstart]
    exact .ended hturn
  | case3 ahead opened hquote rest hclose ih =>
    obtain ⟨part, rfl, -, -, hturn⟩ := turn?_of_closed front hquote hclose
    have hlater := ih (front ++ part)
    rw [List.append_assoc] at hlater
    exact .onward hturn hlater

theorem stays_of_not_closed {tail part : List Char} (h : afterClosing? tail = none)
    (hpart : part <+: tail) : Quoting.inside.run part ≠ .outside := by
  obtain ⟨later, rfl⟩ := hpart
  cases hclose : afterClosing? part with
  | none => exact (Quoting.inside_of_not_closed hclose).1
  | some rest =>
    rw [afterClosing?_append hclose] at h
    cases h

/-- The literal in which a pass over a text ends: it is opened outside of any other, and the
pass does not leave it any more. -/
structure OpenLiteral (text : List Char) where
  front : List Char
  tail : List Char
  text_eq : text = front ++ '"' :: tail
  opens : Quoting.outside.run front = .outside
  stays : ∀ part, part <+: tail → Quoting.inside.run part ≠ .outside

/-- The offset just past the quote that opened the literal left open. -/
def openOffset? (text : List Char) : Option Nat :=
  (openTail? text).map fun tail => size text - size tail

namespace OpenLiteral

variable {text rest : List Char}

def start (literal : OpenLiteral text) : Nat := size (literal.front ++ ['"'])

def behind {part : List Char} (h : Quoting.outside.run part = .outside)
    (literal : OpenLiteral rest) : OpenLiteral (part ++ rest) where
  front := part ++ literal.front
  tail := literal.tail
  text_eq := by rw [List.append_assoc, ← literal.text_eq]
  opens := by rw [Quoting.run_append, h, literal.opens]
  stays := literal.stays

theorem start_eq (literal : OpenLiteral text) :
    literal.start = size text - size literal.tail := by
  have hsize := congrArg size literal.text_eq
  rw [size_append, size_cons] at hsize
  have hquote : Char.utf8Size '"' = 1 := rfl
  rw [start, size_concat_quote]
  omega

theorem dropBytes?_start (literal : OpenLiteral text) :
    dropBytes? text literal.start = some literal.tail := by
  have hdrop := dropBytes?_append (literal.front ++ ['"']) literal.tail
  rwa [List.append_assoc, List.singleton_append, ← literal.text_eq] at hdrop

theorem run_ne_outside (literal : OpenLiteral text) : Quoting.outside.run text ≠ .outside := by
  rw [literal.text_eq, Quoting.run_append, literal.opens]
  exact literal.stays literal.tail List.prefix_rfl

/-- A quote behind the opening one is taken along by a backslash. -/
theorem run_before_quote (literal : OpenLiteral text) {front back : List Char}
    (h : literal.tail = front ++ '"' :: back) : Quoting.inside.run front = .escaped := by
  have hfront := literal.stays front (h ▸ List.prefix_append front _)
  have hquote : front ++ ['"'] <+: literal.tail := ⟨back, by rw [h, List.append_assoc]; rfl⟩
  have hbehind := literal.stays _ hquote
  rw [Quoting.run_append] at hbehind
  cases hrun : Quoting.inside.run front with
  | outside => exact absurd hrun hfront
  | inside =>
    rw [hrun] at hbehind
    exact absurd rfl hbehind
  | escaped => rfl

/-- No literal is opened within another one. -/
theorem eq_nil_of_front_eq {literal other : OpenLiteral text} {more : List Char}
    (h : other.front = literal.front ++ more) : more = [] := by
  have htext := literal.text_eq.symm.trans other.text_eq
  rw [h, List.append_assoc] at htext
  have htail := List.append_cancel_left htext
  cases more with
  | nil => rfl
  | cons c part =>
    obtain ⟨rfl, hpart⟩ := List.cons.inj htail
    have hopens := other.opens
    rw [h, Quoting.run_append, literal.opens] at hopens
    exact absurd hopens (literal.stays part ⟨_, hpart.symm⟩)

theorem tail_eq (literal other : OpenLiteral text) : literal.tail = other.tail := by
  have htext := literal.text_eq.symm.trans other.text_eq
  rcases List.append_eq_append_iff.mp htext with ⟨more, hfront, htail⟩ | ⟨more, hfront, htail⟩
  · obtain rfl := eq_nil_of_front_eq hfront
    exact (List.cons.inj htail).2
  · obtain rfl := eq_nil_of_front_eq hfront
    exact (List.cons.inj htail).2.symm

theorem exists_of_openTail? {tail : List Char} (h : openTail? text = some tail) :
    ∃ literal : OpenLiteral text, literal.tail = tail := by
  fun_induction openTail? text with
  | case1 => cases h
  | case2 text opened hquote hclose =>
    obtain rfl := Option.some.inj h
    obtain ⟨front, htext, -, hrun⟩ := exists_quote hquote
    exact ⟨⟨front, opened, htext, hrun, fun _ => stays_of_not_closed hclose⟩, rfl⟩
  | case3 text opened hquote rest hclose ih =>
    obtain ⟨part, rfl, -, hrun, -⟩ := turn?_of_closed [] hquote hclose
    obtain ⟨literal, htail⟩ := ih h
    exact ⟨literal.behind hrun, htail⟩

theorem openTail?_eq (literal : OpenLiteral text) : openTail? text = some literal.tail := by
  cases h : openTail? text with
  | none => exact absurd (Quoting.openTail?_eq_none_iff.mp h) literal.run_ne_outside
  | some tail =>
    obtain ⟨other, rfl⟩ := exists_of_openTail? h
    rw [tail_eq other literal]

end OpenLiteral

theorem openOffset?_eq_some_iff {text : List Char} {start : Nat} :
    openOffset? text = some start ↔ ∃ literal : OpenLiteral text, literal.start = start := by
  rw [openOffset?, Option.map_eq_some_iff]
  constructor
  · intro h
    obtain ⟨tail, htail, hstart⟩ := h
    obtain ⟨literal, rfl⟩ := OpenLiteral.exists_of_openTail? htail
    exact ⟨literal, literal.start_eq.trans hstart⟩
  · intro h
    obtain ⟨literal, hstart⟩ := h
    exact ⟨literal.tail, literal.openTail?_eq, literal.start_eq.symm.trans hstart⟩

/-- The search for a literal left open finds what a single pass over the text says: none if
the pass ends outside, and else the offset just past the quote that opened the literal the
pass ends in, behind which every quote is taken along by a backslash. The turns of the
search cut the text between two characters only, each moves ahead, and they end with that
result. -/
theorem search_iff_openLiteral (text : List Char) :
    (openOffset? text = none ↔ Quoting.outside.run text = .outside) ∧
      (∀ start, openOffset? text = some start ↔
        ∃ literal : OpenLiteral text, literal.start = start) ∧
      (∀ literal : OpenLiteral text, openTail? text = some literal.tail ∧
        dropBytes? text literal.start = some literal.tail ∧
        ∀ front back, literal.tail = front ++ '"' :: back →
          Quoting.inside.run front = .escaped) ∧
      (∀ result, Returns text 0 result ↔ result = openOffset? text) ∧
      ∀ offset, Visits text offset → ∃ turn, turn? text offset = some turn ∧
        ∀ next, turn = .onward next → offset < next ∧ next ≤ size text := by
  refine ⟨?_, ?_, ?_, ?_, ?_⟩
  · rw [openOffset?, Option.map_eq_none_iff, Quoting.openTail?_eq_none_iff]
  · intro start
    exact openOffset?_eq_some_iff
  · intro literal
    refine ⟨literal.openTail?_eq, literal.dropBytes?_start, ?_⟩
    intro front back h
    exact literal.run_before_quote h
  · intro result
    have hreturns : Returns text 0 (openOffset? text) := returns_openTail? [] text
    constructor
    · intro h
      exact hreturns.unique h
    · rintro rfl
      exact hreturns
  · intro offset h
    exact h.exists_turn

/-- The quote behind the backslash does not close the literal, and those before it stand
behind characters of more than one byte. -/
example : openOffset? "\"é\": \"€\\\"c".toList = some 7 := by decide +kernel

end Region
end DocBlocks
