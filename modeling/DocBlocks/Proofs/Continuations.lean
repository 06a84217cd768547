import DocBlocks.Proofs.LongValue
import DocBlocks.Proofs.LiteralSoundness

/-!
Lines of a long text that end in a backslash. The escape of a break stands behind the
writing of its line, or a backslash that the line leaves pending takes the one of the
escape along. So a value that is read has every break but those behind such a backslash.
-/
namespace DocBlocks

open Json Region

namespace Json

theorem HexUnit.slash_not_mem {digits : List Char} {n : Nat} (h : HexUnit digits n) :
    '\\' ∉ 'u' :: digits := by
  cases h with
  | mk ha hb hc hd =>
    have hdigit : ∀ {c : Char} {n : Nat}, Literal.hexDigit? c = some n → '\\' ≠ c := by
      intro c n hc
      exact (char_of_hexDigit? hc).2.2.symm
    simp [hdigit ha, hdigit hb, hdigit hc, hdigit hd]

/-- A backslash in the writing of a character begins it, or it is the character, or it begins
the second of two units. -/
theorem SpelledChar.slash_cases {front back : List Char} {c : Char}
    (h : SpelledChar (front ++ '\\' :: back) c) :
    front = [] ∨ front = ['\\'] ∧ back = [] ∧ c = '\\' ∨ back.head? = some 'u' := by
  cases front with
  | nil => exact Or.inl rfl
  | cons first front =>
    right
    generalize hraw : first :: front ++ '\\' :: back = raw at h
    cases h with
    | plain => simp at hraw
    | @short letter c hletter =>
      left
      obtain ⟨hfirst, hrest⟩ := List.cons.inj hraw
      cases front with
      | cons => simp at hrest
      | nil =>
        obtain ⟨hslash, hback⟩ := List.cons.inj hrest
        subst hfirst hslash
        have hc : c = '\\' := by simpa [shortEscapes] using hletter
        exact ⟨rfl, hback, hc⟩
    | @unit digits c hdigits =>
      have hrest : front ++ '\\' :: back = 'u' :: digits := (List.cons.inj hraw).2
      exact absurd (by simp [← hrest]) hdigits.slash_not_mem
    | @pair high low n m c hhigh hlow =>
      right
      have hsplit : front ++ '\\' :: back = ('u' :: high) ++ '\\' :: ('u' :: low) :=
        (List.cons.inj hraw).2
      rcases List.append_eq_append_iff.mp hsplit with ⟨between, hfront, hrest⟩ |
        ⟨between, hfront, hrest⟩
      · cases between with
        | nil => rw [(List.cons.inj hrest).2, List.head?_cons]
        | cons d between =>
          obtain ⟨hd, -⟩ := List.cons.inj hrest
          subst hd
          exact absurd (by simp [hfront]) hhigh.slash_not_mem
      · cases between with
        | nil => rw [← (List.cons.inj hrest).2, List.head?_cons]
        | cons d between =>
          exact absurd (by simp [(List.cons.inj hrest).2]) hlow.slash_not_mem

theorem SpelledChar.eq_feed {raw rest more : List Char} {c : Char}
    (h : SpelledChar ('\\' :: raw) c) (hraw : raw ++ more = 'n' :: rest) :
    c = '\n' ∧ more = rest := by
  cases h with
  | plain hquote hslash => exact absurd rfl hslash
  | @short letter c hletter =>
    obtain ⟨hn, hmore⟩ := List.cons.inj hraw
    subst hn
    have hc : c = '\n' := by simpa [shortEscapes] using hletter
    exact ⟨hc, hmore⟩
  | unit => exact absurd (List.cons.inj hraw).1 (by decide)
  | pair => exact absurd (List.cons.inj hraw).1 (by decide)

theorem Spelled.of_letter {rest text : List Char} {letter : Char} (hslash : letter ≠ '\\')
    (h : Spelled (letter :: rest) text) : ∃ later, text = letter :: later ∧ Spelled rest later := by
  generalize hraw : letter :: rest = raw at h
  cases h with
  | nil => cases hraw
  | cons hchar hrest =>
    cases hchar with
    | plain =>
      obtain ⟨hletter, hsame⟩ := List.cons.inj hraw
      subst hletter hsame
      exact ⟨_, rfl, hrest⟩
    | short => exact absurd (List.cons.inj hraw).1 hslash
    | unit => exact absurd (List.cons.inj hraw).1 hslash
    | pair => exact absurd (List.cons.inj hraw).1 hslash

/-- `SpelledLine line text` says that a line with the escape of its break is a writing of
the text. The break is the end of the text, or a backslash at the end of the line takes
that of the escape along, and the letter is left. -/
inductive SpelledLine : List Char → List Char → Prop
  | kept {line text : List Char} (h : Spelled line text) : SpelledLine line (text ++ ['\n'])
  | lost {front text : List Char} (h : Spelled front text) :
      SpelledLine (front ++ ['\\']) (text ++ ['\\', 'n'])

namespace SpelledLine

variable {raw line text : List Char} {c : Char}

theorem cons (hchar : SpelledChar raw c) (h : SpelledLine line text) :
    SpelledLine (raw ++ line) (c :: text) := by
  cases h with
  | kept h => exact .kept (.cons hchar h)
  | lost h =>
    rw [← List.append_assoc]
    exact .lost (.cons hchar h)

theorem spelled (h : SpelledLine line text) : Spelled (line ++ lineBreak) text := by
  cases h with
  | kept h => exact h.append spelled_lineBreak
  | @lost front text h =>
    have hslash : Spelled ['\\', '\\'] ['\\'] := (SpelledChar.short (by decide)).spelled
    have hletter : Spelled ['n'] ['n'] := spelled_self (by decide)
    simpa [lineBreak] using h.append (hslash.append hletter)

end SpelledLine

theorem Spelled.run_inside {raw text : List Char} (h : Spelled raw text) :
    Quoting.inside.run raw = .inside := by
  have hclosed := (Quoting.inside_of_closed (afterClosing?_quote h [])).1
  rw [Quoting.run_append] at hclosed
  cases hrun : Quoting.inside.run raw with
  | inside => rfl
  | outside =>
    rw [hrun] at hclosed
    cases hclosed
  | escaped =>
    rw [hrun] at hclosed
    cases hclosed

/-- A break in the writing of a text parts the text in two. -/
theorem Spelled.of_break {line rest text : List Char}
    (h : Spelled (line ++ (lineBreak ++ rest)) text) :
    ∃ shown later, SpelledLine line shown ∧ Spelled rest later ∧ text = shown ++ later := by
  generalize hraw : line ++ (lineBreak ++ rest) = raw at h
  induction h generalizing line with
  | nil => simp [lineBreak] at hraw
  | @cons first behind text c hchar hbehind ih =>
    have hwithin : ∀ later, line = first ++ later → later ++ (lineBreak ++ rest) = behind →
        ∃ shown tail, SpelledLine line shown ∧ Spelled rest tail ∧
          c :: text = shown ++ tail := by
      intro later hline hlater
      obtain ⟨shown, tail, hshown, htail, htext⟩ := ih hlater
      refine ⟨c :: shown, tail, ?_, htail, by rw [htext, List.cons_append]⟩
      rw [hline]
      exact hshown.cons hchar
    -- the first character is written within the line, or it reaches into the break
    rcases List.append_eq_append_iff.mp hraw with ⟨reach, hfirst, hreach⟩ |
      ⟨later, hline, hlater⟩
    · cases reach with
      | nil => exact hwithin [] (by simpa using hfirst.symm) hreach
      | cons d reach =>
        obtain ⟨hslash, hbreak⟩ := List.cons.inj hreach
        subst hslash hfirst
        rcases hchar.slash_cases with hline | ⟨hline, hnone, hc⟩ | hletter
        · subst hline
          obtain ⟨hc, hrest⟩ := hchar.eq_feed hbreak.symm
          subst hc hrest
          exact ⟨['\n'], text, .kept .nil, hbehind, rfl⟩
        · subst hline hnone hc
          rw [← show 'n' :: rest = behind from hbreak] at hbehind
          obtain ⟨tail, htext, htail⟩ := hbehind.of_letter (by decide)
          exact ⟨['\\', 'n'], tail, .lost .nil, htail, by rw [htext]; rfl⟩
        · cases reach with
          | nil => cases hletter
          | cons letter reach =>
            obtain ⟨hn, -⟩ := List.cons.inj hbreak
            obtain rfl := Option.some.inj hletter
            exact absurd hn (by decide)
    · exact hwithin later hline hlater.symm

theorem spelled_intercalate_iff {middle : List (List Char)} {last text : List Char} :
    Spelled (lineBreak.intercalate (middle ++ [last])) text ↔
      ∃ texts lastText, List.Forall₂ SpelledLine middle texts ∧ Spelled last lastText ∧
        text = texts.flatten ++ lastText := by
  induction middle generalizing text with
  | nil =>
    constructor
    · intro h
      exact ⟨[], text, .nil, by simpa using h, rfl⟩
    · intro h
      obtain ⟨texts, lastText, hnone, hlast, htext⟩ := h
      cases hnone
      subst htext
      simpa using hlast
  | cons line middle ih =>
    have hne : middle ++ [last] ≠ [] := by simp
    rw [List.cons_append, List.intercalate_cons_of_ne_nil hne, List.append_assoc]
    constructor
    · intro h
      obtain ⟨shown, later, hline, hlater, htext⟩ := h.of_break
      obtain ⟨texts, lastText, hmiddle, hlast, hrest⟩ := ih.mp hlater
      refine ⟨shown :: texts, lastText, .cons hline hmiddle, hlast, ?_⟩
      rw [htext, hrest, List.flatten_cons, List.append_assoc]
    · intro h
      obtain ⟨texts, lastText, hall, hlast, htext⟩ := h
      cases hall with
      | @cons _ shown _ texts hline hmiddle =>
        have hrest := hline.spelled.append (ih.mpr ⟨texts, lastText, hmiddle, hlast, rfl⟩)
        rw [htext, List.flatten_cons, List.append_assoc]
        rwa [List.append_assoc] at hrest

end Json

namespace Region

theorem afterClosing?_lineBreak {line : List Char} (h : afterClosing? line = none)
    (rest : List Char) : afterClosing? (line ++ (lineBreak ++ rest)) = afterClosing? rest := by
  fun_induction afterClosing? line with
  | case1 => rfl
  | case2 => cases h
  | case3 c later ih => exact ih h
  | case4 c later hquote hpair ih =>
    by_cases hslash : c = '\\'
    · cases later with
      | nil =>
        subst hslash
        rfl
      | cons d later => exact absurd rfl (hpair d later hslash)
    · rw [List.cons_append, afterClosing?_cons hquote hslash]
      exact ih h

theorem afterClosing?_intercalate {middle : List (List Char)} {last : List Char}
    (hmiddle : ∀ line ∈ middle, afterClosing? line = none)
    (hlast : afterClosing? (last ++ ['"']) = some []) :
    afterClosing? (lineBreak.intercalate (middle ++ [last]) ++ ['"']) = some [] := by
  induction middle with
  | nil => simpa using hlast
  | cons line middle ih =>
    obtain ⟨hline, hrest⟩ := List.forall_mem_cons.mp hmiddle
    have hne : middle ++ [last] ≠ [] := by simp
    rw [List.cons_append, List.intercalate_cons_of_ne_nil hne, List.append_assoc,
      List.append_assoc, afterClosing?_lineBreak hline, ih hrest]

/-- A text with a name and a value that is closed by the quote behind it can only be read if
the value is the writing of a text. -/
theorem spelled_of_read {rawKey key rawName name rawValue : List Char} {value : Value}
    (hkey : Spelled rawKey key) (hname : Spelled rawName name)
    (hclose : afterClosing? (rawValue ++ ['"']) = some [])
    (h : Json.read (valueText rawKey rawName rawValue) = .ok value) :
    ∃ text, Spelled rawValue text := by
  have hcompletes := read_eq_ok_iff.mp h
  rw [valueText_eq] at hcompletes
  obtain ⟨reader, hreader, hrest⟩ := Reader.completes_append_iff.mp hcompletes
  obtain rfl := Except.ok.inj ((Reader.steps_nameLine hname).symm.trans hreader)
  obtain ⟨reader, hreader, hvalue⟩ := Reader.completes_append_iff.mp hrest
  obtain rfl := Except.ok.inj ((Reader.steps_keyPart hkey).symm.trans hreader)
  obtain ⟨reader, hreader, hliteral⟩ := Reader.completes_cons_iff.mp hvalue
  obtain rfl := Except.ok.inj hreader
  obtain ⟨raw, text, rest, hsplit, hspelled, -⟩ := Reader.spelled_of_completes hliteral
  -- both quotes are the first that closes the literal
  have hsame : rawValue ++ ['"'] ++ ['}'] = raw ++ '"' :: rest := hsplit
  have hhere := afterClosing?_append hclose ['}']
  rw [hsame, afterClosing?_quote hspelled] at hhere
  obtain rfl := Option.some.inj hhere
  rw [List.append_assoc] at hsame
  rw [List.append_cancel_right hsame]
  exact ⟨text, hspelled⟩

theorem countP_le_count {middle texts : List (List Char)}
    (h : List.Forall₂ SpelledLine middle texts) :
    middle.countP (Quoting.inside.run · = .inside) ≤ texts.flatten.count '\n' := by
  induction h with
  | nil => exact Nat.le_refl 0
  | @cons line text middle texts hline _ ih =>
    rw [List.countP_cons, List.flatten_cons, List.count_append]
    cases hline with
    | kept =>
      rw [List.count_append, List.count_singleton_self]
      split
      · omega
      · omega
    | @lost front text hfront =>
      have hpending : Quoting.inside.run (front ++ ['\\']) = .escaped := by
        rw [Quoting.run_append, hfront.run_inside]
        rfl
      rw [hpending, if_neg (by decide)]
      omega

end Region

/-- With a value that is closed by the quote behind it, a text has an entry exactly if the
value is the writing of a text, and then that is what the entry has. -/
theorem entry_valueText_iff {key : String} {rawName name rawValue : List Char} {entry : Entry}
    (hkey : key = "example" ∨ key = "longtext") (hname : Spelled rawName name)
    (hclose : afterClosing? (rawValue ++ ['"']) = some []) :
    entryOfText (String.ofList (valueText key.toList rawName rawValue)) = .ok entry ↔
      ∃ value, Spelled rawValue value ∧
        entry = .ofFunction (longValueDoc key (String.ofList name) (String.ofList value)) := by
  constructor
  · intro h
    have hread := h
    rw [entryOfText, String.toList_ofList] at hread
    cases hvalue : Json.read (valueText key.toList rawName rawValue) with
    | error fault =>
      rw [hvalue] at hread
      cases hread
    | ok value =>
      obtain ⟨text, hspelled⟩ := spelled_of_read (spelled_key hkey) hname hclose hvalue
      rw [entry_valueText hkey hname hspelled] at h
      exact ⟨text, hspelled, (Except.ok.inj h).symm⟩
  · intro h
    obtain ⟨value, hspelled, hentry⟩ := h
    rw [hentry]
    exact entry_valueText hkey hname hspelled

/-- A region with a name and a long text, of which no line closes the value but the last at
its end, has one descriptor. If that has an entry, its value has an end of line for each
line but the last that does not leave a backslash pending. -/
theorem feeds_of_open_lines {tag source key : String} {marker tail rawName name last : List Char}
    {middle : List (List Char)} (hkey : key = "example" ∨ key = "longtext")
    (hmarker : afterMarker? tag.toList marker = some tail)
    (hopen : ¬ closer <:+: tail)
    (hname : Spelled rawName name)
    (hmiddle : ∀ line ∈ middle, afterClosing? line = none)
    (hlast : afterClosing? (last ++ ['"']) = some [])
    (hbody : ∀ line ∈ valueBody key.toList rawName [] middle last, ¬ closer <:+: line)
    (hlines : Text.lines source.toList =
      marker :: (valueBody key.toList rawName [] middle last ++ [closer])) :
    ∃ descriptor : Descriptor, (scan tag source).descriptors = [descriptor] ∧
      ∀ entry, descriptor.entry = .ok entry →
        ∃ value, entry = .ofFunction (longValueDoc key (String.ofList name) value) ∧
          middle.countP (Quoting.inside.run · = .inside) ≤ value.toList.count '\n' := by
  have htext := bodyText_openValue hkey hname .nil hmiddle hlast
  refine ⟨⟨1, String.ofList (bodyText (valueBody key.toList rawName [] middle last))⟩, ?_, ?_⟩
  · rw [Scan.descriptors, scan, hlines, Scan.ofLines_region hmarker hopen hbody List.infix_rfl]
    rfl
  · intro entry hentry
    rw [Descriptor.entry, mapError_eq_ok_iff, htext] at hentry
    have hclose := afterClosing?_intercalate hmiddle hlast
    obtain ⟨value, hspelled, hvalue⟩ := (entry_valueText_iff hkey hname hclose).mp hentry
    obtain ⟨texts, lastText, hall, -, hsplit⟩ := spelled_intercalate_iff.mp hspelled
    refine ⟨String.ofList value, hvalue, ?_⟩
    rw [String.toList_ofList, hsplit, List.count_append]
    have hkept := countP_le_count hall
    omega

/-- The first line of the value ends in a backslash, and the second does not. -/
def continuedLines : String :=
  "/* doc\n\x7b\"name\": \"f\",\n\"example\": \"\na\\\nb\nc\"\n\x7d\n*/\n"

theorem feeds_of_open_lines_continued :
    ∃ descriptor : Descriptor, (scan "doc" continuedLines).descriptors = [descriptor] ∧
      descriptor.entry = .ok (.ofFunction (longValueDoc "example" "f" "a\\nb\nc")) ∧
      ["a\\".toList, "b".toList].countP (Quoting.inside.run · = .inside) ≤
        "a\\nb\nc".toList.count '\n' := by
  let middle : List (List Char) := ["a\\".toList, "b".toList]
  let body : List (List Char) := valueBody "example".toList "f".toList [] middle "c".toList
  have hmarker : afterMarker? "doc".toList "/* doc".toList = some [] := by decide +kernel
  have hopen : ¬ closer <:+: [] := by decide
  have hname : Spelled "f".toList "f".toList := spelled_self (by decide +kernel)
  have hmiddle : ∀ line ∈ middle, afterClosing? line = none := by decide +kernel
  have hlast : afterClosing? ("c".toList ++ ['"']) = some [] := by decide +kernel
  have hbody : ∀ line ∈ body, ¬ closer <:+: line := by decide +kernel
  have hlines : Text.lines continuedLines.toList = "/* doc".toList :: (body ++ [closer]) := by
    decide +kernel
  obtain ⟨descriptor, hfound, hvalue⟩ :=
    feeds_of_open_lines (Or.inl rfl) hmarker hopen hname hmiddle hlast hbody hlines
  have hscan : (scan "doc" continuedLines).descriptors =
      [⟨1, "\x7b\"name\": \"f\",\"example\": \"a\\\\nb\\nc\"\x7d"⟩] := by decide +kernel
  have hentry : descriptor.entry =
      .ok (.ofFunction (longValueDoc "example" "f" "a\\nb\nc")) := by
    rw [List.singleton_inj.mp (hfound.symm.trans hscan)]
    rfl
  obtain ⟨value, hsame, hfeeds⟩ := hvalue _ hentry
  have hexample : "a\\nb\nc" = value := congrArg FunctionDoc.usage (Entry.ofFunction.inj hsame)
  rw [← hexample] at hfeeds
  exact ⟨descriptor, hfound, hentry, hfeeds⟩

/-- The only break of the value stands behind a backslash. -/
def lostLines : String :=
  "/* jsondoc\n\x7b\"name\": \"f\",\n\"example\": \"\na\\\nb\"\n\x7d\n*/\n"

/-- The value has a backslash and a letter in place of that break, and no end of line. -/
theorem lineBreak_lost :
    Text.lines lostLines.toList = "/* jsondoc".toList ::
        (valueBody "example".toList "f".toList [] ["a\\".toList] "b".toList ++ [closer]) ∧
      afterClosing? "a\\".toList = none ∧ afterClosing? ("b".toList ++ ['"']) = some [] ∧
      ∃ descriptor : Descriptor, (scan "jsondoc" lostLines).descriptors = [descriptor] ∧
        descriptor.entry = .ok (.ofFunction (longValueDoc "example" "f" "a\\nb")) ∧
        "a\\nb".toList.count '\n' < ["a\\".toList].length := by
  refine ⟨by decide +kernel, by decide +kernel, by decide +kernel,
    ⟨1, "\x7b\"name\": \"f\",\"example\": \"a\\\\nb\"\x7d"⟩, by decide +kernel, rfl, by decide⟩

end DocBlocks
