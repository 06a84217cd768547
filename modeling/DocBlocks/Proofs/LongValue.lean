import DocBlocks.Build
import DocBlocks.Proofs.Decomposition
import DocBlocks.Proofs.Spelling
import Mathlib.Data.List.Forall2

/-!
A long text written over several lines is read back whole. The break of the
line with its key counts if the value has begun there; every later break up to
the closing quote counts once, and nothing else is added.
-/
namespace DocBlocks

open Json Region

namespace Region

def quote (raw : List Char) : List Char := '"' :: (raw ++ ['"'])

/-- A member of an object up to its value. -/
def keyPart (rawKey : List Char) : List Char := quote rawKey ++ [':', ' ']

/-- The body of a region with a name and a long text: the value begins behind
its key with `first`, goes on over the middle lines and ends with `last`. -/
def valueBody (rawKey rawName first : List Char) (middle : List (List Char)) (last : List Char) :
    List (List Char) :=
  ('{' :: (keyPart "name".toList ++ (quote rawName ++ [',']))) ::
    (keyPart rawKey ++ '"' :: first) :: (middle ++ [last ++ ['"'], ['}']])

def valueText (rawKey rawName rawValue : List Char) : List Char :=
  '{' :: (keyPart "name".toList ++ (quote rawName ++
    ',' :: (keyPart rawKey ++ (quote rawValue ++ ['}']))))

theorem valueText_eq (rawKey rawName rawValue : List Char) :
    valueText rawKey rawName rawValue =
      ('{' :: (keyPart "name".toList ++ (quote rawName ++ [',']))) ++
        (keyPart rawKey ++ (quote rawValue ++ ['}'])) := by
  simp [valueText]

/-- A value has begun on the line of its key if more than blanks follow its quote. -/
def begun (first : List Char) : Bool := !first.all Text.isBlank

/-- The lines of a value joined by breaks, the first of which may be left out. -/
def joinedValue (sep : List Char) (begun : Bool) (first : List Char) (later : List (List Char)) :
    List Char :=
  first ++ (if begun then sep else []) ++ sep.intercalate later

theorem spelled_lineBreak : Spelled lineBreak ['\n'] :=
  (SpelledChar.short (by decide)).spelled

theorem spelled_intercalate {raws texts : List (List Char)}
    (h : List.Forall₂ Spelled raws texts) :
    Spelled (lineBreak.intercalate raws) (List.intercalate ['\n'] texts) := by
  induction h with
  | nil => exact .nil
  | @cons raw text raws texts hfirst hrest ih =>
    cases hrest with
    | nil => simpa using hfirst
    | cons hsecond hlater =>
      rw [List.intercalate_cons_cons, List.intercalate_cons_cons]
      exact (hfirst.append spelled_lineBreak).append ih

theorem spelled_joinedValue {first firstText : List Char} {later texts : List (List Char)}
    (begun : Bool) (hfirst : Spelled first firstText) (hlater : List.Forall₂ Spelled later texts) :
    Spelled (joinedValue lineBreak begun first later)
      (joinedValue ['\n'] begun firstText texts) := by
  unfold joinedValue
  have hrest := spelled_intercalate hlater
  cases begun with
  | false => simpa using hfirst.append hrest
  | true => exact (hfirst.append spelled_lineBreak).append hrest

theorem afterClosing?_quote {raw text : List Char} (h : Spelled raw text) (rest : List Char) :
    afterClosing? (raw ++ '"' :: rest) = some rest := by
  rw [h.afterClosing?]
  rfl

theorem not_closed {raw text : List Char} (h : Spelled raw text) : afterClosing? raw = none := by
  have hclose := h.afterClosing? []
  rwa [List.append_nil] at hclose

theorem openTail?_quote {raw text : List Char} (h : Spelled raw text) (rest : List Char) :
    openTail? (quote raw ++ rest) = openTail? rest := by
  have hclose : afterClosing? (raw ++ ['"'] ++ rest) = some rest := by
    rw [List.append_assoc]
    exact afterClosing?_quote h rest
  exact openTail?_closed hclose

theorem openTail?_keyPart {rawKey key : List Char} (h : Spelled rawKey key) (rest : List Char) :
    openTail? (keyPart rawKey ++ rest) = openTail? rest := by
  rw [keyPart, List.append_assoc, openTail?_quote h]
  exact (openTail?_cons (by decide)).trans (openTail?_cons (by decide))

theorem spelled_name : Spelled "name".toList "name".toList := spelled_self (by decide +kernel)

/-- The lines of an open value, up to the one that closes it and the brace behind. -/
theorem bodyEnd_later {middle : List (List Char)} {last : List Char}
    (hmiddle : ∀ line ∈ middle, afterClosing? line = none)
    (hlast : afterClosing? (last ++ ['"']) = some []) :
    bodyEnd true (middle ++ [last ++ ['"'], ['}']]) =
      ⟨lineBreak.intercalate (middle ++ [last]) ++ ['"', '}'], false⟩ := by
  induction middle with
  | nil =>
    have hclose : lineEnd true (last ++ ['"']) = ⟨[], false⟩ := by
      simp only [lineEnd, if_true, hlast]
      exact endOutside_of_not_open (Quoting.openTail?_eq_none_iff.mpr rfl)
    have hbrace : endOutside ['}'] = ⟨[], false⟩ :=
      endOutside_of_not_open (Quoting.openTail?_eq_none_iff.mpr rfl)
    have hlater : lineEnd false ['}'] = ⟨[], false⟩ := hbrace
    simp [bodyEnd, hclose, hlater]
  | cons line middle ih =>
    obtain ⟨hline, hrest⟩ := List.forall_mem_cons.mp hmiddle
    have hopen : lineEnd true line = ⟨lineBreak, true⟩ := by
      simp only [lineEnd, if_true, hline]
    have hne : middle ++ [last] ≠ [] := by simp
    simp [bodyEnd, hopen, ih hrest, List.intercalate_cons_of_ne_nil hne]

theorem spelled_key {key : String} (hkey : key = "example" ∨ key = "longtext") :
    Spelled key.toList key.toList := by
  rcases hkey with rfl | rfl
  · exact spelled_self (by decide +kernel)
  · exact spelled_self (by decide +kernel)

theorem lineEnd_nameLine {rawName name : List Char} (hname : Spelled rawName name) :
    lineEnd false ('{' :: (keyPart "name".toList ++ (quote rawName ++ [',']))) = ⟨[], false⟩ := by
  apply endOutside_of_not_open
  rw [openTail?_cons (by decide), openTail?_keyPart spelled_name, openTail?_quote hname,
    openTail?_cons (by decide)]
  exact Quoting.openTail?_eq_none_iff.mpr rfl

theorem lineEnd_keyLine {key : String} {first firstText : List Char}
    (hkey : key = "example" ∨ key = "longtext") (hfirst : Spelled first firstText) :
    lineEnd false (keyPart key.toList ++ '"' :: first) =
      ⟨if begun first then lineBreak else [], true⟩ := by
  have hmem : quote key.toList ++ [':'] ∈ longTextKeys := by
    rcases hkey with rfl | rfl
    · decide +kernel
    · decide +kernel
  have hpart : quote key.toList ++ [':'] <:+: keyPart key.toList ++ '"' :: first :=
    ⟨[], ' ' :: '"' :: first, by simp [keyPart]⟩
  have hany : longTextKeys.any (Text.occursIn · (keyPart key.toList ++ '"' :: first)) = true :=
    List.any_eq_true.mpr ⟨_, hmem, Text.occursIn_iff.mpr hpart⟩
  have hopen : openTail? (keyPart key.toList ++ '"' :: first) = some first := by
    rw [openTail?_keyPart (spelled_key hkey), openTail?_open (not_closed hfirst)]
  change endOutside _ = _
  rw [endOutside, if_pos hany, hopen, begun]
  by_cases hblank : first.all Text.isBlank
  · simp [hblank]
  · simp [hblank]

/-- The lines of a name and a long text make one text. Backslashes do not matter, but for
one before the closing quote. -/
theorem bodyText_openValue {key : String} {rawName name first firstText last : List Char}
    {middle : List (List Char)} (hkey : key = "example" ∨ key = "longtext")
    (hname : Spelled rawName name) (hfirst : Spelled first firstText)
    (hmiddle : ∀ line ∈ middle, afterClosing? line = none)
    (hlast : afterClosing? (last ++ ['"']) = some []) :
    bodyText (valueBody key.toList rawName first middle last) =
      valueText key.toList rawName
        (joinedValue lineBreak (begun first) first (middle ++ [last])) := by
  simp only [bodyText, valueBody, bodyEnd, lineEnd_nameLine hname, lineEnd_keyLine hkey hfirst,
    bodyEnd_later hmiddle hlast]
  simp [valueText, joinedValue, quote]

theorem bodyText_valueBody {key : String} {rawName name first firstText last lastText : List Char}
    {middle texts : List (List Char)} (hkey : key = "example" ∨ key = "longtext")
    (hname : Spelled rawName name) (hfirst : Spelled first firstText)
    (hmiddle : List.Forall₂ Spelled middle texts) (hlast : Spelled last lastText) :
    bodyText (valueBody key.toList rawName first middle last) =
      valueText key.toList rawName
        (joinedValue lineBreak (begun first) first (middle ++ [last])) := by
  have hopen := hmiddle.imp (fun _ _ h => And.intro (not_closed h) h)
  have hlines := ((List.forall₂_and_left _ _).mp hopen).1
  exact bodyText_openValue hkey hname hfirst hlines (afterClosing?_quote hlast [])

/-- The breaks in a joined value take two characters each: one for every later
line but the last, and one more if the value has begun on the line of its key. -/
theorem length_joinedValue (begun : Bool) (first : List Char) (middle : List (List Char))
    (last : List Char) :
    (joinedValue lineBreak begun first (middle ++ [last])).length =
      (first ++ middle.flatten ++ last).length + 2 * (middle.length + begun.toNat) := by
  have hlater : (lineBreak.intercalate (middle ++ [last])).length =
      (middle.flatten ++ last).length + 2 * middle.length := by
    induction middle with
    | nil => simp
    | cons line middle ih =>
      have hne : middle ++ [last] ≠ [] := by simp
      rw [List.cons_append, List.intercalate_cons_of_ne_nil hne, List.length_append,
        List.length_append, ih]
      simp only [lineBreak, List.flatten_cons, List.length_append, List.length_cons,
        List.length_nil]
      omega
  unfold joinedValue
  rw [List.length_append, hlater]
  cases begun with
  | false =>
    simp only [Bool.false_eq_true, if_false, List.append_nil, List.length_append, Bool.toNat_false]
    omega
  | true =>
    simp only [if_true, lineBreak, List.length_append, List.length_cons, List.length_nil,
      Bool.toNat_true]
    omega

end Region

namespace Json.Reader

theorem steps_keyPart {stack : List Frame} {before : Members} {closable : Bool}
    {rawKey key : List Char} (hkey : Spelled rawKey key) :
    (⟨stack, .key before closable⟩ : Reader).steps (keyPart rawKey) =
      .ok ⟨.object before (String.ofList key) :: stack, .value false⟩ := by
  have hcolon : (⟨stack, .colon before (String.ofList key)⟩ : Reader).steps [':', ' '] =
      .ok ⟨.object before (String.ofList key) :: stack, .value false⟩ := rfl
  exact steps_append (steps_spelledKey hkey) hcolon

theorem steps_member {stack : List Frame} {before : Members} {closable : Bool}
    {rawKey key raw text : List Char} (hkey : Spelled rawKey key) (hvalue : Spelled raw text) :
    (⟨stack, .key before closable⟩ : Reader).steps (keyPart rawKey ++ quote raw) =
      .ok ⟨.object before (String.ofList key) :: stack, .ended (.text (String.ofList text))⟩ :=
  steps_append (steps_keyPart hkey) (steps_spelled hvalue)

theorem steps_nameLine {rawName name : List Char} (hname : Spelled rawName name) :
    Reader.start.steps ('{' :: (keyPart "name".toList ++ (quote rawName ++ [',']))) =
      .ok ⟨[], .key [("name", .text (String.ofList name))] false⟩ := by
  let named : Value := .text (String.ofList name)
  have hopening : Reader.start.step '{' = .ok ⟨[], .key [] true⟩ := rfl
  have hfirst : (⟨[], .key [] true⟩ : Reader).steps (keyPart "name".toList ++ quote rawName) =
      .ok ⟨[.object [] (String.ofList "name".toList)], .ended named⟩ :=
    steps_member spelled_name hname
  rw [String.ofList_toList] at hfirst
  have hcomma : (⟨[.object [] "name"], .ended named⟩ : Reader).steps [','] =
      .ok ⟨[], .key [("name", named)] false⟩ := rfl
  have hall := steps_cons hopening (steps_append hfirst hcomma)
  simpa only [List.append_assoc] using hall

/-- A text with a name and one more member is read as an object of the two. -/
theorem steps_valueText {rawKey key rawName name rawValue value : List Char}
    (hkey : Spelled rawKey key) (hname : Spelled rawName name) (hvalue : Spelled rawValue value) :
    Reader.start.steps (valueText rawKey rawName rawValue) =
      .ok ⟨[], .ended (.object [("name", .text (String.ofList name)),
        (String.ofList key, .text (String.ofList value))])⟩ := by
  let named : Value := .text (String.ofList name)
  let valued : Value := .text (String.ofList value)
  have hsecond : (⟨[], .key [("name", named)] false⟩ : Reader).steps
        (keyPart rawKey ++ quote rawValue) =
      .ok ⟨[.object [("name", named)] (String.ofList key)], .ended valued⟩ :=
    steps_member hkey hvalue
  have hclosing :
      (⟨[.object [("name", named)] (String.ofList key)], .ended valued⟩ : Reader).steps ['}'] =
        .ok ⟨[], .ended (.object [("name", named), (String.ofList key, valued)])⟩ := rfl
  have hall := steps_append (steps_nameLine hname) (steps_append hsecond hclosing)
  rw [valueText_eq]
  simpa only [List.append_assoc] using hall

end Json.Reader

/-- The function that a name and a long text describe. -/
def longValueDoc (key name value : String) : FunctionDoc where
  name := name
  parameters := []
  text := none
  longText := if key = "longtext" then some value else none
  returns := none
  usage := if key = "example" then value else ""

theorem entry_valueText {key : String} {rawName name rawValue value : List Char}
    (hkey : key = "example" ∨ key = "longtext") (hname : Spelled rawName name)
    (hvalue : Spelled rawValue value) :
    entryOfText (String.ofList (valueText key.toList rawName rawValue)) =
      .ok (.ofFunction (longValueDoc key (String.ofList name) (String.ofList value))) := by
  have hread : Json.read (valueText key.toList rawName rawValue) =
      .ok (.object [("name", .text (String.ofList name)), (key, .text (String.ofList value))]) := by
    rw [read_eq_ok_iff]
    have hsteps := Reader.steps_valueText (spelled_key hkey) hname hvalue
    rw [String.ofList_toList] at hsteps
    exact ⟨_, hsteps, rfl⟩
  rw [entryOfText, String.toList_ofList, hread]
  rcases hkey with rfl | rfl
  · rfl
  · rfl

/-- A region whose lines write a name and a long text, of which each line is by itself the
inside of a literal, has one descriptor. Its value is what the lines stand for with a break
between two of them, but with none after a first line of blanks; the descriptor has those
breaks as its only insertions. -/
theorem entry_of_value_lines {tag source key : String} {marker tail : List Char}
    {rawName name first firstText last lastText : List Char} {middle texts : List (List Char)}
    (hkey : key = "example" ∨ key = "longtext")
    (hmarker : afterMarker? tag.toList marker = some tail)
    (hopen : ¬ closer <:+: tail)
    (hname : Spelled rawName name)
    (hfirst : Spelled first firstText)
    (hmiddle : List.Forall₂ Spelled middle texts)
    (hlast : Spelled last lastText)
    (hbody : ∀ line ∈ valueBody key.toList rawName first middle last, ¬ closer <:+: line)
    (hlines : Text.lines source.toList =
      marker :: (valueBody key.toList rawName first middle last ++ [closer])) :
    ∃ descriptor : Descriptor, (scan tag source).descriptors = [descriptor] ∧
      descriptor.line = 1 ∧
      descriptor.text.length =
        (valueBody key.toList rawName first middle last).flatten.length +
          2 * (middle.length + (begun first).toNat) ∧
      descriptor.entry = .ok (.ofFunction (longValueDoc key (String.ofList name)
        (String.ofList (joinedValue ['\n'] (begun first) firstText (texts ++ [lastText]))))) := by
  let rawValue := joinedValue lineBreak (begun first) first (middle ++ [last])
  refine ⟨⟨1, String.ofList (valueText key.toList rawName rawValue)⟩, ?_, rfl, ?_, ?_⟩
  · have hscan := (@Scan.Decomposition.closed tag.toList 1 [] _ [] _ _ _ _ (by simp) hmarker hopen
      hbody List.infix_rfl (.unmarked (by simp))).ofLines_eq
    have htext := bodyText_valueBody hkey hname hfirst hmiddle hlast
    rw [List.nil_append] at hscan
    rw [Scan.descriptors, scan, hlines, hscan, htext]
    rfl
  · have hvalue : rawValue.length =
        (first ++ middle.flatten ++ last).length + 2 * (middle.length + (begun first).toNat) :=
      length_joinedValue (begun first) first middle last
    simp only [String.length_ofList, valueText, valueBody, keyPart, quote, List.length_append,
      List.length_cons, List.length_nil, List.flatten_cons, List.flatten_append,
      List.flatten_nil] at hvalue ⊢
    omega
  · have hlater : List.Forall₂ Spelled (middle ++ [last]) (texts ++ [lastText]) :=
      List.rel_append hmiddle (.cons hlast .nil)
    have hentry := entry_valueText hkey hname (spelled_joinedValue (begun first) hfirst hlater)
    rw [Descriptor.entry, hentry]
    rfl

/-- An escaped quote at the end of its line, a pair of escapes as a line, and an empty line. -/
def valueLines : String :=
  "/* doc\n\x7b\"name\": \"f\",\n\"example\": \"say \\\"\n\\ud83d\\ude00\n\"\n\x7d\n*/\n"

theorem entry_of_value_lines_escaped :
    Text.lines valueLines.toList = "/* doc".toList ::
      (valueBody "example".toList "f".toList "say \\\"".toList ["\\ud83d\\ude00".toList] [] ++
        [closer]) ∧
    ∃ descriptor : Descriptor, (scan "doc" valueLines).descriptors = [descriptor] ∧
      descriptor.line = 1 ∧ descriptor.text.length = 45 + 2 * 2 ∧
      descriptor.entry = .ok (.ofFunction (longValueDoc "example" "f" "say \"\n😀\n")) := by
  have hlines : Text.lines valueLines.toList = "/* doc".toList ::
      (valueBody "example".toList "f".toList "say \\\"".toList ["\\ud83d\\ude00".toList] [] ++
        [closer]) := by decide +kernel
  have hmarker : afterMarker? "doc".toList "/* doc".toList = some [] := by decide +kernel
  have hopen : ¬ closer <:+: [] := by decide
  have hname : Spelled "f".toList "f".toList := spelled_self (by decide +kernel)
  have hfirst : Spelled "say \\\"".toList "say \"".toList := by
    have hplain : Spelled "say ".toList "say ".toList := spelled_self (by decide +kernel)
    have hquote : SpelledChar ['\\', '"'] '"' := .short (by decide)
    have hraw : "say \\\"".toList = "say ".toList ++ ['\\', '"'] := by decide +kernel
    have htext : "say \"".toList = "say ".toList ++ ['"'] := by decide +kernel
    rw [hraw, htext]
    exact hplain.append hquote.spelled
  have hbody : ∀ line ∈ valueBody "example".toList "f".toList "say \\\"".toList
      ["\\ud83d\\ude00".toList] [], ¬ closer <:+: line := by decide +kernel
  obtain ⟨descriptor, hfound, hline, hlength, hentry⟩ := entry_of_value_lines
    (Or.inl rfl) hmarker hopen hname hfirst (.cons spelled_pair .nil) .nil hbody hlines
  refine ⟨hlines, descriptor, hfound, hline, ?_, ?_⟩
  · rw [hlength]
    decide +kernel
  · rw [hentry]
    have hvalue : joinedValue ['\n'] (begun "say \\\"".toList) "say \"".toList ([['😀']] ++ [[]]) =
        "say \"\n😀\n".toList := by decide +kernel
    rw [hvalue, String.ofList_toList, String.ofList_toList]

end DocBlocks
