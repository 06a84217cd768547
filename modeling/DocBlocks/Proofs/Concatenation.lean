import DocBlocks.Proofs.Decomposition

/-!
A text with a line feed and more text behind it. What is found in the text stays as
it is. If no region is open at its end, the rest is scanned as if it stood alone, and
only its lines are counted on from there.
-/
namespace DocBlocks

open Region

namespace Text

/-- A carriage return is a blank: it goes with the blanks before it, or stays at the end. -/
theorem trimStart_return (text : List Char) :
    trimStart text = [] ∧ trimStart (text ++ ['\r']) = [] ∨
      trimStart (text ++ ['\r']) = trimStart text ++ ['\r'] := by
  have hreturn : trimStart ['\r'] = [] := by decide
  unfold trimStart at *
  rw [List.dropWhile_append]
  cases htext : text.dropWhile isBlank with
  | nil => exact Or.inl ⟨rfl, hreturn⟩
  | cons c rest => exact Or.inr rfl

theorem before?_closer_return (text : List Char) :
    before? closer (text ++ ['\r']) = before? closer text := by
  induction text with
  | nil => rfl
  | cons c rest ih =>
    have hbegin : closer.isPrefixOf (c :: (rest ++ ['\r'])) = closer.isPrefixOf (c :: rest) := by
      cases rest with
      | nil => simp [closer, List.isPrefixOf]
      | cons d rest => rfl
    rw [List.cons_append, before?, before?, hbegin, ih]

end Text

namespace Region

variable {tag : List Char} {number : Nat}

theorem afterTag?_return (htag : tag ≠ []) (hreturn : '\r' ∉ tag) (text : List Char) :
    afterTag? tag (text ++ ['\r']) = (afterTag? tag text).map (· ++ ['\r']) := by
  have hword : ∀ tail, continuesWord (tail ++ ['\r']) = continuesWord tail := by
    intro tail
    cases tail with
    | nil => decide +kernel
    | cons c tail => rfl
  ext tail
  rw [Option.map_eq_some_iff]
  simp only [afterTag?_eq_some_iff]
  rcases Text.trimStart_return text with ⟨hnone, hblank⟩ | hlast
  · rw [hnone, hblank]
    simp [htag]
  · rw [hlast]
    constructor
    · rintro ⟨happend, hend⟩
      rcases List.eq_nil_or_concat tail with rfl | ⟨front, c, rfl⟩
      · rw [List.append_nil] at happend
        exact absurd (happend ▸ List.mem_append_right _ List.mem_cons_self) hreturn
      · rw [List.concat_eq_append, ← List.append_assoc] at happend
        obtain ⟨hfront, hc⟩ := List.append_inj' happend rfl
        obtain rfl := List.singleton_inj.mp hc
        rw [List.concat_eq_append] at hend ⊢
        exact ⟨front, ⟨hfront, (hword front).symm.trans hend⟩, rfl⟩
    · rintro ⟨front, ⟨happend, hend⟩, rfl⟩
      exact ⟨by rw [← List.append_assoc, happend], (hword front).trans hend⟩

/-- A carriage return at the end of a line makes no marker and unmakes none. -/
theorem afterMarker?_return (htag : ¬ tag.any Text.isBlank) (line : List Char) :
    afterMarker? tag (line ++ ['\r']) = (afterMarker? tag line).map (· ++ ['\r']) := by
  unfold afterMarker?
  split
  · rfl
  · next hne =>
    have hreturn : '\r' ∉ tag := by
      intro hmem
      exact htag (List.any_eq_true.mpr ⟨'\r', hmem, by decide⟩)
    fun_induction findMarker? tag line with
    | case1 => rfl
    | case2 rest ih =>
      rw [List.cons_append, List.cons_append, findMarker?, ih, afterTag?_return hne hreturn]
      cases afterTag? tag rest <;> rfl
    | case3 c rest hother ih =>
      rw [List.cons_append, findMarker?, ih]
      rintro rest' rfl happend
      cases rest with
      | nil => cases happend
      | cons d rest =>
        obtain ⟨rfl, -⟩ := List.cons.inj happend
        exact hother rest rfl rfl

namespace Mode

/-- A carriage return at the end of a line changes neither what the line ends nor
whether a region is open behind it. -/
theorem step_return (htag : ¬ tag.any Text.isBlank) (mode : Mode) (line : List Char) :
    (mode.step tag number (line ++ ['\r'])).2 = (mode.step tag number line).2 ∧
      (mode.step tag number (line ++ ['\r'])).1.unclosed =
        (mode.step tag number line).1.unclosed := by
  cases mode with
  | outside =>
    simp only [step, afterMarker?_return htag]
    cases afterMarker? tag line with
    | none => exact ⟨rfl, rfl⟩
    | some tail =>
      simp only [Option.map_some, Text.before?_closer_return, and_self]
  | inside opened text longText =>
    have hclosed : closer <:+: line ++ ['\r'] ↔ closer <:+: line := by
      simp only [← Text.occursIn_iff, Text.occursIn, Text.before?_closer_return]
    by_cases hclose : closer <:+: line
    · rw [step_closing (hclosed.mpr hclose), step_closing hclose]
      exact ⟨rfl, rfl⟩
    · rw [step_body (mt hclosed.mp hclose), step_body hclose]
      exact ⟨rfl, rfl⟩

theorem step_dropReturn (htag : ¬ tag.any Text.isBlank) (mode : Mode) (line : List Char) :
    (mode.step tag number (Text.dropReturn line)).2 = (mode.step tag number line).2 ∧
      (mode.step tag number (Text.dropReturn line)).1.unclosed =
        (mode.step tag number line).1.unclosed := by
  rcases Text.dropReturn_eq line with hsame | hreturn
  · rw [hsame]
    exact ⟨rfl, rfl⟩
  · obtain ⟨hfound, hopen⟩ := step_return htag mode (Text.dropReturn line)
    rw [← hreturn] at hfound hopen
    exact ⟨hfound.symm, hopen.symm⟩

theorem step_empty (mode : Mode) :
    (mode.step tag number []).2 = none ∧ (mode.step tag number []).1.unclosed = mode.unclosed := by
  cases mode with
  | outside =>
    have hmarker : afterMarker? tag [] = none := by
      unfold afterMarker?
      split
      · rfl
      · rfl
    rw [step_unmarked hmarker]
    exact ⟨rfl, rfl⟩
  | inside opened text longText =>
    rw [step_body (by decide)]
    exact ⟨rfl, rfl⟩

theorem eq_outside {mode : Mode} (h : mode.unclosed = none) : mode = .outside := by
  cases mode with
  | outside => rfl
  | inside opened text longText => cases h

def shift (k : Nat) : Mode → Mode
  | .outside => .outside
  | .inside opened text longText => .inside (opened + k) text longText

end Mode
end Region

def Descriptor.shift (k : Nat) (descriptor : Descriptor) : Descriptor :=
  { descriptor with line := descriptor.line + k }

def Region.shift (k : Nat) (region : Region) : Region :=
  ⟨region.toDescriptor.shift k, region.lastLine + k⟩

namespace Scan

def shift (k : Nat) (found : Scan) : Scan :=
  ⟨found.regions.map (·.shift k), found.unclosed.map (· + k)⟩

end Scan

def Event.shift (k : Nat) : Event → Event
  | .regionOnOneLine line => .regionOnOneLine (line + k)
  | .regionOpened line => .regionOpened (line + k)
  | .regionClosed line bytes => .regionClosed (line + k) bytes
  | .regionUnclosed line => .regionUnclosed (line + k)
  | other => other

namespace Region.Mode

theorem step_shift (tag : List Char) (number k : Nat) (mode : Mode) (line : List Char) :
    (mode.shift k).step tag (number + k) line =
      ((mode.step tag number line).1.shift k,
        (mode.step tag number line).2.map (·.shift k)) := by
  cases mode with
  | outside =>
    simp only [shift, step]
    cases afterMarker? tag line with
    | none => rfl
    | some tail =>
      cases hclose : Text.before? closer tail with
      | none => simp only [hclose]; rfl
      | some text => simp only [hclose]; rfl
  | inside opened text longText =>
    simp only [shift, step]
    cases Text.occursIn closer line with
    | true => rfl
    | false => rfl

end Region.Mode

namespace Scan

variable {tag : List Char}

theorem ofLines_shift (number k : Nat) (mode : Mode) (lines : List (List Char)) :
    ofLines tag (mode.shift k) (number + k) lines = (ofLines tag mode number lines).shift k := by
  induction lines generalizing mode number with
  | nil =>
    cases mode with
    | outside => rfl
    | inside opened text longText => rfl
  | cons line lines ih =>
    have hnumber : number + k + 1 = number + 1 + k := by omega
    rw [ofLines_cons, Mode.step_shift, hnumber, ih, ofLines_cons]
    simp only [shift, List.map_append]
    cases (mode.step tag number line).2 with
    | none => rfl
    | some region => rfl

/-- The last line of a text, which is one only if it is not empty, and the same line with
a feed behind it end the same region and leave the same one open. -/
theorem ofLines_lastLine (htag : ¬ tag.any Text.isBlank) (mode : Mode) (number : Nat)
    (last : List Char) :
    ((mode.step tag number (Text.dropReturn last)).2.toList =
        (ofLines tag mode number (if last = [] then [] else [last])).regions) ∧
      (mode.step tag number (Text.dropReturn last)).1.unclosed =
        (ofLines tag mode number (if last = [] then [] else [last])).unclosed := by
  by_cases hlast : last = []
  · subst hlast
    obtain ⟨hfound, hopen⟩ := @Mode.step_empty tag number mode
    rw [if_pos rfl, Text.dropReturn, hfound, hopen]
    exact ⟨rfl, rfl⟩
  · obtain ⟨hfound, hopen⟩ := @Mode.step_dropReturn tag number htag mode last
    rw [if_neg hlast, ofLines_cons, hfound, hopen]
    exact ⟨(List.append_nil _).symm, rfl⟩

/-- What is found in a text with a feed and more behind it begins with what is found in
the text; if no region is open there, the rest is scanned from its own first line. -/
theorem scan_feed (tag front back : String) (htag : ¬ tag.toList.any Text.isBlank) :
    (scan tag front).regions <+: (scan tag (front ++ "\n" ++ back)).regions ∧
      ((scan tag front).unclosed = none →
        scan tag (front ++ "\n" ++ back) =
          ⟨(scan tag front).regions ++
              ((scan tag back).shift (front.toList.count '\n' + 1)).regions,
            ((scan tag back).shift (front.toList.count '\n' + 1)).unclosed⟩) := by
  obtain ⟨ended, last, hlines, hcount, hback⟩ := Text.exists_lines_feed front.toList
  let middle := Mode.outside.steps tag.toList 1 ended
  let rest := ofLines tag.toList middle (1 + ended.length) (if last = [] then [] else [last])
  let next := middle.step tag.toList (1 + ended.length) (Text.dropReturn last)
  let later := ofLines tag.toList next.1 (1 + ended.length + 1) (Text.lines back.toList)
  have hfront : scan tag front =
      ⟨(ofLines tag.toList .outside 1 ended).regions ++ rest.regions, rest.unclosed⟩ := by
    rw [scan, hlines, ofLines_append]
  have hwhole : scan tag (front ++ "\n" ++ back) =
      ⟨(ofLines tag.toList .outside 1 ended).regions ++ (next.2.toList ++ later.regions),
        later.unclosed⟩ := by
    have htext : (front ++ "\n" ++ back).toList = front.toList ++ '\n' :: back.toList := by
      simp
    rw [scan, htext, hback, ofLines_append, ofLines_cons]
  obtain ⟨hregions, hopen⟩ : next.2.toList = rest.regions ∧ next.1.unclosed = rest.unclosed :=
    ofLines_lastLine htag middle (1 + ended.length) last
  rw [hfront, hwhole, hregions, ← List.append_assoc]
  refine ⟨List.prefix_append _ _, fun hclosed => ?_⟩
  have houtside : next.1 = .outside := Mode.eq_outside (hopen.trans hclosed)
  have hlater : later = (scan tag back).shift (front.toList.count '\n' + 1) := by
    have hnumber : 1 + ended.length + 1 = 1 + (front.toList.count '\n' + 1) := by omega
    change ofLines tag.toList next.1 (1 + ended.length + 1) _ = _
    rw [houtside, hnumber]
    exact ofLines_shift 1 (front.toList.count '\n' + 1) .outside _
  rw [hlater]

theorem descriptors_shift (k : Nat) (found : Scan) :
    (found.shift k).descriptors = found.descriptors.map (·.shift k) := by
  simp only [descriptors, shift, List.map_map]
  rfl

theorem warnings_shift (k : Nat) (found : Scan) :
    (found.shift k).events.filter (·.isWarning) =
      (found.events.filter (·.isWarning)).map (·.shift k) := by
  rw [warnings_events, warnings_events]
  cases hunclosed : found.unclosed with
  | none => simp only [shift, hunclosed]; rfl
  | some opened => simp only [shift, hunclosed]; rfl

theorem descriptors_prefix_feed (tag front back : String) (htag : ¬ tag.toList.any Text.isBlank) :
    (scan tag front).descriptors <+: (scan tag (front ++ "\n" ++ back)).descriptors :=
  (scan_feed tag front back htag).1.map _

/-- The descriptors of a text are the first ones of every text that begins with it and a
line feed. If there is no warning of the text, those of the rest follow, so many lines
further down as the text has feeds and one more, and so does the warning of the rest. -/
theorem descriptors_feed (tag front back : String) (htag : ¬ tag.toList.any Text.isBlank) :
    (scan tag front).descriptors <+: (scan tag (front ++ "\n" ++ back)).descriptors ∧
      ((scan tag front).events.filter (·.isWarning) = [] →
        (scan tag (front ++ "\n" ++ back)).descriptors =
            (scan tag front).descriptors ++
              (scan tag back).descriptors.map (·.shift (front.toList.count '\n' + 1)) ∧
          (scan tag (front ++ "\n" ++ back)).events.filter (·.isWarning) =
            ((scan tag back).events.filter (·.isWarning)).map
              (·.shift (front.toList.count '\n' + 1))) := by
  refine ⟨descriptors_prefix_feed tag front back htag, ?_⟩
  intro hquiet
  have hclosed : (scan tag front).unclosed = none := by
    rw [warnings_events] at hquiet
    cases hunclosed : (scan tag front).unclosed with
    | none => rfl
    | some opened =>
      rw [hunclosed] at hquiet
      cases hquiet
  have hwhole := (scan_feed tag front back htag).2 hclosed
  constructor
  · rw [← descriptors_shift, hwhole]
    exact List.map_append
  · rw [← warnings_shift, warnings_events, warnings_events, hwhole]

/-- A text with two regions, and a carriage return behind the last closer. -/
def closedSource : String := "/* doc 1 */\n/* doc\n2\n*/\r"

/-- A text with a region, and another one left open. -/
def openSource : String := "/* doc 3 */\n/* doc"

theorem descriptors_feed_open :
    (scan "doc" closedSource).events.filter (·.isWarning) = [] ∧
      (scan "doc" (closedSource ++ "\n" ++ openSource)).descriptors =
        [⟨1, "1"⟩, ⟨2, "2"⟩, ⟨5, "3"⟩] ∧
      (scan "doc" (closedSource ++ "\n" ++ openSource)).events.filter (·.isWarning) =
        [.regionUnclosed 6] := by
  have htag : ¬ "doc".toList.any Text.isBlank := by decide +kernel
  have hquiet : (scan "doc" closedSource).events.filter (·.isWarning) = [] := by decide +kernel
  obtain ⟨-, hrest⟩ := descriptors_feed "doc" closedSource openSource htag
  obtain ⟨hdescriptors, hwarnings⟩ := hrest hquiet
  refine ⟨hquiet, hdescriptors.trans ?_, hwarnings.trans ?_⟩
  · decide +kernel
  · decide +kernel

end Scan
end DocBlocks
