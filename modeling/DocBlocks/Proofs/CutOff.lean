import DocBlocks.Proofs.ClosingBracket
import DocBlocks.Proofs.FirstMalformed

/-!
Long texts that the end of their region cuts off. Wherever the lines of a region leave a
long text open, its text so far ends with a quote or with the escape of a line break,
while every text that describes an entry ends with a bracket. So what is cut off is
malformed, however the quotes before it are matched.
-/
namespace DocBlocks

namespace Region

/-- The text ends with a quote or with the escape of a line break, but for blanks. -/
def BreaksOff (text : List Char) : Prop :=
  Text.lastInk? text = some '"' ∨ Text.lastInk? text = some 'n'

theorem BreaksOff.append_left {back : List Char} (h : BreaksOff back) (front : List Char) :
    BreaksOff (front ++ back) :=
  h.imp (Text.lastInk?_append_of_some · front) (Text.lastInk?_append_of_some · front)

theorem breaksOff_lineBreak (line : List Char) : BreaksOff (line ++ lineBreak) := by
  have hbreak : BreaksOff lineBreak := Or.inr (by decide)
  exact hbreak.append_left line

theorem breaksOff_quote {tail : List Char} (h : tail.all Text.isBlank = true) :
    BreaksOff ('"' :: tail) := by
  have hquote : Text.lastInk? ['"'] = some '"' := by decide
  exact Or.inl ((Text.lastInk?_append_blank h ['"']).trans hquote)

theorem BreaksOff.not_endsClosed {text : List Char} (h : BreaksOff text) :
    ¬ Json.EndsClosed text := by
  rintro (hclosed | hclosed) <;> rcases h with h | h <;> cases h.symm.trans hclosed

theorem suffix_of_afterClosing? {text rest : List Char} (h : afterClosing? text = some rest) :
    rest <:+ text := by
  fun_induction afterClosing? text with
  | case1 => cases h
  | case2 later =>
    obtain rfl := Option.some.inj h
    exact List.suffix_cons '"' later
  | case3 c later ih => exact (ih h).trans (List.suffix_append ['\\', c] later)
  | case4 c later _ _ ih => exact (ih h).trans (List.suffix_cons c later)

theorem suffix_of_afterQuote? {text tail : List Char} (h : afterQuote? text = some tail) :
    '"' :: tail <:+ text := by
  induction text with
  | nil => cases h
  | cons c text ih =>
    unfold afterQuote? at h
    split at h
    · next hc =>
      obtain rfl := Option.some.inj h
      subst hc
      exact List.suffix_refl _
    · exact (ih h).trans (List.suffix_cons c text)

/-- What follows the quote of an open literal ends the text, with the quote before it. -/
theorem suffix_of_openTail? {text tail : List Char} (h : openTail? text = some tail) :
    '"' :: tail <:+ text := by
  fun_induction openTail? text with
  | case1 => cases h
  | case2 text opened hquote hclose =>
    obtain rfl := Option.some.inj h
    exact suffix_of_afterQuote? hquote
  | case3 text opened hquote rest hclose ih =>
    have hopened : opened <:+ '"' :: opened := List.suffix_cons '"' opened
    exact (ih h).trans <| (suffix_of_afterClosing? hclose).trans <|
      hopened.trans (suffix_of_afterQuote? hquote)

theorem breaksOff_endOutside {fragment : List Char} (h : (endOutside fragment).longText = true) :
    BreaksOff (fragment ++ (endOutside fragment).written) := by
  unfold endOutside at h ⊢
  split at h
  · next hkey =>
    rw [if_pos hkey]
    cases hopen : openTail? fragment with
    | none =>
      rw [hopen] at h
      cases h
    | some tail =>
      by_cases hblank : tail.all Text.isBlank = true
      · obtain ⟨front, rfl⟩ := suffix_of_openTail? hopen
        simp only [if_pos hblank, List.append_nil]
        exact (breaksOff_quote hblank).append_left front
      · simp only [if_neg hblank]
        exact breaksOff_lineBreak fragment
  · cases h

theorem breaksOff_lineEnd {longText : Bool} {line : List Char}
    (h : (lineEnd longText line).longText = true) :
    BreaksOff (line ++ (lineEnd longText line).written) := by
  unfold lineEnd at h ⊢
  split at h
  · next hlong =>
    rw [if_pos hlong]
    cases hclose : afterClosing? line with
    | none => exact breaksOff_lineBreak line
    | some rest =>
      rw [hclose] at h
      obtain ⟨front, rfl⟩ := suffix_of_afterClosing? hclose
      simp only [List.append_assoc]
      exact (breaksOff_endOutside h).append_left front
  · next hlong =>
    rw [if_neg hlong]
    exact breaksOff_endOutside h

namespace Mode

variable {tag : List Char} {number : Nat}

/-- With a long text open, the text of the region breaks off. -/
def BreaksOff : Mode → Prop
  | .outside => True
  | .inside _ text longText => longText = true → Region.BreaksOff text.toList

/-- The step over a line leaves it so, whatever was before. -/
theorem breaksOff_step (mode : Mode) (line : List Char) :
    (mode.step tag number line).1.BreaksOff := by
  cases mode with
  | outside =>
    simp only [step]
    split
    · trivial
    · split
      · exact fun h => absurd h Bool.false_ne_true
      · trivial
  | inside opened text longText =>
    simp only [step]
    split
    · trivial
    · intro h
      rw [String.toList_append, String.toList_ofList]
      exact (breaksOff_lineEnd h).append_left text.toList

theorem breaksOff_steps {mode : Mode} (h : mode.BreaksOff) (lines : List (List Char)) :
    (mode.steps tag number lines).BreaksOff := by
  induction lines generalizing mode number with
  | nil => exact h
  | cons line rest ih => exact ih (breaksOff_step mode line)

end Mode

/-- What breaks off describes no entry. -/
theorem BreaksOff.malformed {text : String} (h : BreaksOff text.toList) (line : Nat) :
    ∃ malformed, (⟨line, text⟩ : Descriptor).entry = .error malformed := by
  cases hentry : (⟨line, text⟩ : Descriptor).entry with
  | error malformed => exact ⟨malformed, rfl⟩
  | ok entry => exact absurd (endsClosed_of_entry (mapError_eq_ok_iff.mp hentry)) h.not_endsClosed

end Region

open Region

/-- The region that a line closes stands behind those of the lines before. -/
theorem Scan.exists_descriptors_of_closing {tag source : String} {front rest : List (List Char)}
    {closing : List Char} {opened : Nat} {text : String} {longText : Bool}
    (hlines : Text.lines source.toList = front ++ closing :: rest)
    (hmode : Mode.outside.steps tag.toList 1 front = .inside opened text longText)
    (hclosing : closer <:+: closing) :
    ∃ before after, (scan tag source).descriptors = before ++ ⟨opened, text⟩ :: after := by
  rw [Scan.descriptors, scan, hlines, ofLines_append, hmode, ofLines_cons,
    Mode.step_closing hclosing]
  simp only [Option.toList_some, List.singleton_append, List.map_append, List.map_cons]
  exact ⟨_, _, rfl⟩

/-- A region that ends within a long text is malformed, whatever its lines are. Neither
Markdown nor a summary is made of its source: both fail with it, or with a region before. -/
theorem malformed_of_cut_off {tag source : String} {front rest : List (List Char)}
    {closing : List Char} {opened : Nat} {text : String}
    (hlines : Text.lines source.toList = front ++ closing :: rest)
    (hmode : Mode.outside.steps tag.toList 1 front = .inside opened text true)
    (hclosing : closer <:+: closing) :
    (∃ malformed, (⟨opened, text⟩ : Descriptor).entry = .error malformed) ∧
      ∃ before after malformed,
        (scan tag source).descriptors = before ++ ⟨opened, text⟩ :: after ∧
          malformed.descriptor ∈ before ++ [⟨opened, text⟩] ∧
          (generate tag source).result = .error malformed ∧
          (check tag source).result = .error malformed := by
  have houtside : Mode.outside.BreaksOff := trivial
  have hopen : (Mode.inside opened text true).BreaksOff :=
    hmode ▸ Mode.breaksOff_steps houtside front
  have hmalformed : ∃ malformed, (⟨opened, text⟩ : Descriptor).entry = .error malformed :=
    (hopen rfl).malformed opened
  obtain ⟨before, after, hdescriptors⟩ := Scan.exists_descriptors_of_closing hlines hmode hclosing
  have hbegin : before ++ [⟨opened, text⟩] <+: (scan tag source).descriptors :=
    ⟨after, by rw [hdescriptors, List.append_assoc]; rfl⟩
  obtain ⟨malformed, hfirst⟩ : ∃ malformed, FirstMalformed (before ++ [⟨opened, text⟩]) malformed :=
    FirstMalformed.exists_iff.mpr ⟨_, List.mem_append_right _ List.mem_cons_self, hmalformed⟩
  have hwhole : FirstMalformed (scan tag source).descriptors malformed :=
    hfirst.of_isPrefix hbegin
  have hgenerate := generate_eq_error_iff.mpr hwhole
  exact ⟨hmalformed, before, after, malformed, hdescriptors, hfirst.mem, hgenerate,
    check_eq_error hgenerate⟩

/-- A literal is left open on the line before the key, so that as JSON it ends where the
key begins. The comment closer stands in the value. -/
def cutOffSource : String :=
  "/* doc\n\x7b\"name\":\"f\",\"text\":\"\n,\"example\":\"go\n a */ b\n\"\x7d\n*/"

def cutOffText : String := "\x7b\"name\":\"f\",\"text\":\",\"example\":\"go\\n"

theorem malformed_of_cut_off_unbalanced :
    ∃ malformed, malformed.descriptor = ⟨1, cutOffText⟩ ∧
      (generate "doc" cutOffSource).result = .error malformed ∧
      (check "doc" cutOffSource).result = .error malformed := by
  let body : List (List Char) :=
    ["\x7b\"name\":\"f\",\"text\":\"".toList, ",\"example\":\"go".toList]
  have hlines : Text.lines cutOffSource.toList =
      ("/* doc".toList :: body) ++ " a */ b".toList :: ["\"\x7d".toList, "*/".toList] := by
    decide +kernel
  have hmarker : afterMarker? "doc".toList "/* doc".toList = some [] := by decide +kernel
  have hbody : ∀ line ∈ body, ¬ closer <:+: line := by decide +kernel
  have hend : bodyEnd false body = ⟨cutOffText.toList, true⟩ := by decide +kernel
  have hmode : Mode.outside.steps "doc".toList 1 ("/* doc".toList :: body) =
      .inside 1 cutOffText true := by
    rw [Mode.steps, Mode.step_opening hmarker (by decide), Mode.steps_body hbody, hend,
      String.ofList_toList, String.empty_append]
  have hclosing : closer <:+: " a */ b".toList := Text.occursIn_iff.mp (by decide +kernel)
  obtain ⟨-, before, after, malformed, hdescriptors, hmem, hgenerate, hcheck⟩ :=
    malformed_of_cut_off hlines hmode hclosing
  have hscan : (scan "doc" cutOffSource).descriptors = [⟨1, cutOffText⟩] := by decide +kernel
  have hin : malformed.descriptor ∈ (scan "doc" cutOffSource).descriptors := by
    rw [hdescriptors, ← List.singleton_append, ← List.append_assoc]
    exact List.mem_append_left _ hmem
  rw [hscan] at hin
  exact ⟨malformed, List.mem_singleton.mp hin, hgenerate, hcheck⟩

end DocBlocks
