import DocBlocks.Build
import DocBlocks.Proofs.Arranging
import DocBlocks.Proofs.Decomposition

/-!
A summary beside the Markdown of the same source. Both fail alike, and the numbers of
the summary are those of the Markdown and of the log: every region is a function of
the reference, or its class, or the subject of a warning.
-/
namespace DocBlocks

def Event.isDropped : Event → Bool
  | .dropped _ => true
  | _ => false

/-- The name of the function that a descriptor describes. -/
def Descriptor.functionName? (descriptor : Descriptor) : Option String :=
  descriptor.entry.toOption.bind Entry.functionName?

/-- Reading descriptors gives no warnings. -/
theorem Reading.warnings_events (reading : Reading) (descriptors : List Descriptor) :
    (reading.events descriptors).filter (·.isWarning) = [] := by
  rw [List.filter_eq_nil_iff]
  intro event hevent
  rcases List.mem_cons.mp hevent with rfl | hevent
  · exact Bool.false_ne_true
  · rw [← List.map_uncurry_zip_eq_zipWith] at hevent
    obtain ⟨⟨descriptor, entry⟩, -, rfl⟩ := List.mem_map.mp hevent
    cases entry with
    | ofClass doc => exact Bool.false_ne_true
    | ofFunction doc => exact Bool.false_ne_true

/-- An arrangement gives a warning of everything that is left out. -/
theorem Arrangement.warnings_events (arrangement : Arrangement) :
    arrangement.events.filter (·.isWarning) = arrangement.dropped.map .dropped := by
  have hdropped : (arrangement.dropped.map Event.dropped).filter (·.isWarning) =
      arrangement.dropped.map .dropped := by
    rw [List.filter_eq_self]
    intro event hevent
    obtain ⟨entry, -, rfl⟩ := List.mem_map.mp hevent
    rfl
  rw [events, List.filter_append, hdropped]
  exact List.append_nil _

namespace Markdown

theorem prefix_header (doc : ClassDoc) : "# ".toList <+: (header doc).toList := by
  simp only [header, String.toList_append, List.append_assoc]
  exact List.prefix_append _ _

theorem prefix_function (doc : FunctionDoc) : "## ".toList <+: (function doc).toList := by
  simp only [function, String.toList_append, List.append_assoc]
  exact List.prefix_append _ _

end Markdown

namespace Reference

theorem prefix_markdown_of_class {reference : Reference} {doc : ClassDoc}
    (h : reference.header = some doc) : "# ".toList <+: reference.markdown.toList := by
  simp only [markdown, h, String.toList_append, List.append_assoc]
  exact (Markdown.prefix_header doc).trans (List.prefix_append _ _)

theorem prefix_markdown_of_function {reference : Reference} {doc : FunctionDoc}
    {rest : List FunctionDoc} (h : reference.header = none)
    (hfunctions : reference.functions = doc :: rest) :
    "## ".toList <+: reference.markdown.toList := by
  simp only [markdown, h, hfunctions, String.empty_append, List.map_cons, String.join_cons,
    String.toList_append]
  exact (Markdown.prefix_function doc).trans (List.prefix_append _ _)

theorem markdown_of_nothing {reference : Reference} (h : reference.header = none)
    (hfunctions : reference.functions = []) : reference.markdown = "" := by
  simp only [markdown, h, hfunctions]
  rfl

/-- One sign begins the section of a class, two begin that of a function. -/
theorem not_prefix_of_signs {text : List Char} (h : "## ".toList <+: text) :
    ¬ "# ".toList <+: text := by
  obtain ⟨back, rfl⟩ := h
  intro hone
  obtain ⟨-, hrest⟩ := List.cons_prefix_cons.mp hone
  exact absurd (List.cons_prefix_cons.mp hrest).1 (by decide)

/-- The head of the Markdown tells whether there is a class. -/
theorem isSome_header_iff (reference : Reference) :
    reference.header.isSome = true ↔ "# ".toList <+: reference.markdown.toList := by
  cases hheader : reference.header with
  | some doc => exact ⟨fun _ => prefix_markdown_of_class hheader, fun _ => rfl⟩
  | none =>
    have hnone : ¬ "# ".toList <+: reference.markdown.toList := by
      cases hfunctions : reference.functions with
      | nil =>
        rw [markdown_of_nothing hheader hfunctions]
        decide +kernel
      | cons doc rest => exact not_prefix_of_signs (prefix_markdown_of_function hheader hfunctions)
    exact ⟨fun h => absurd h Bool.false_ne_true, fun h => absurd h hnone⟩

theorem markdown_eq_empty_iff (reference : Reference) :
    reference.markdown = "" ↔
      reference.functions.length = 0 ∧ reference.header.isSome = false := by
  constructor
  · intro hempty
    have hnone : ∀ mark : String, mark ≠ "" → ¬ mark.toList <+: reference.markdown.toList := by
      intro mark hmark hbegin
      rw [hempty] at hbegin
      exact hmark (String.toList_eq_nil_iff.mp (List.prefix_nil.mp hbegin))
    have hheader : reference.header = none := by
      cases hheader : reference.header with
      | none => rfl
      | some doc => exact absurd (prefix_markdown_of_class hheader) (hnone _ (by decide))
    refine ⟨?_, by rw [hheader]; rfl⟩
    cases hfunctions : reference.functions with
    | nil => rfl
    | cons doc rest =>
      exact absurd (prefix_markdown_of_function hheader hfunctions) (hnone _ (by decide))
  · rintro ⟨hlength, hnone⟩
    exact markdown_of_nothing (Option.isSome_eq_false_iff.mp hnone |> Option.isNone_iff_eq_none.mp)
      (List.length_eq_zero_iff.mp hlength)

end Reference

/-- The warnings of a run that succeeds: of the region left open, and of what is left out. -/
theorem warnings_build {tag source : String} {entries : List Entry}
    (h : (readDescriptors (scan tag source).descriptors).result = .ok entries) :
    (build tag source).warnings = (scan tag source).unclosed.toList.map .regionUnclosed ++
      (arrange entries).dropped.map .dropped := by
  simp only [Logged.warnings, build, survey, Survey.events, h, Except.map, List.filter_append,
    Scan.warnings_events, Reading.warnings_events, Arrangement.warnings_events, List.append_nil]

theorem warnings_check (tag source : String) :
    (check tag source).warnings = (build tag source).warnings := rfl

theorem warnings_generate (tag source : String) :
    (generate tag source).warnings = (build tag source).warnings := by
  simp only [Logged.warnings, generate, List.filter_append]
  cases (build tag source).result with
  | error malformed => exact List.append_nil _
  | ok built => exact List.append_nil _

theorem functionNames_eq {descriptors : List Descriptor} {entries : List Entry}
    (h : descriptors.map Descriptor.entry = entries.map .ok) :
    descriptors.filterMap Descriptor.functionName? = entries.filterMap Entry.functionName? := by
  have hname : Descriptor.functionName? =
      (fun found => (Except.toOption found).bind Entry.functionName?) ∘ Descriptor.entry := rfl
  rw [hname, ← List.filterMap_map, h, List.filterMap_map]
  rfl

theorem countP_isDropped (opened : List Nat) (dropped : List Dropped) :
    (opened.map Event.regionUnclosed ++ dropped.map Event.dropped).countP Event.isDropped =
      dropped.length := by
  simp [List.countP_append, List.countP_map, Function.comp_def, Event.isDropped]

theorem filter_not_isDropped (opened : List Nat) (dropped : List Dropped) :
    (opened.map Event.regionUnclosed ++ dropped.map Event.dropped).filter (!·.isDropped) =
      opened.map Event.regionUnclosed := by
  simp [List.filter_append, List.filter_map, Function.comp_def, Event.isDropped]

/-- What an arranged source and its warnings add up to. -/
theorem accounts_of_entries {tag source : String} {entries : List Entry}
    (h : (readDescriptors (scan tag source).descriptors).result = .ok entries)
    (hentries : (scan tag source).descriptors.map Descriptor.entry = entries.map .ok) :
    (arrange entries).reference.functions.length =
        ((scan tag source).descriptors.filterMap Descriptor.functionName?).toFinset.card ∧
      (scan tag source).descriptors.length =
        (arrange entries).reference.size + (build tag source).warnings.countP Event.isDropped ∧
      (build tag source).warnings.filter (!·.isDropped) =
        (scan tag source).unclosed.toList.map .regionUnclosed := by
  have hlength : (scan tag source).descriptors.length = entries.length := by
    simpa only [List.length_map] using congrArg List.length hentries
  refine ⟨?_, ?_, ?_⟩
  · rw [functionNames_eq hentries, length_functions_arrange]
  · rw [hlength, warnings_build h, countP_isDropped]
    exact (size_arrange entries).symm
  · rw [warnings_build h, filter_not_isDropped]

/-- A summary fails where the Markdown fails, over the same descriptor. Otherwise it has
the number of regions and of names of functions, and says whether the Markdown begins with
a class; every region is a function or the class or has a warning of its own, and the
only other warning is of a region left open. -/
theorem check_iff_generate (tag source : String) :
    (∀ malformed, (check tag source).result = .error malformed ↔
        (generate tag source).result = .error malformed) ∧
      ∀ summary markdown, (check tag source).result = .ok summary →
        (generate tag source).result = .ok markdown →
          summary.regions = (scan tag source).descriptors.length ∧
          summary.functions =
            ((scan tag source).descriptors.filterMap Descriptor.functionName?).toFinset.card ∧
          (summary.hasClass = true ↔ "# ".toList <+: markdown.toList) ∧
          (markdown = "" ↔ summary.functions = 0 ∧ summary.hasClass = false) ∧
          summary.regions = summary.functions + (if summary.hasClass then 1 else 0) +
            (check tag source).warnings.countP Event.isDropped ∧
          (check tag source).warnings.filter (!·.isDropped) =
            (scan tag source).unclosed.toList.map .regionUnclosed ∧
          (generate tag source).warnings = (check tag source).warnings := by
  rcases Reading.result_cases (scan tag source).descriptors with
    ⟨entries, hresult, hentries⟩ | ⟨_, _, _, first, _, _, _, hresult⟩
  · rw [check_result, generate_result, hresult]
    constructor
    · intro malformed
      constructor
      · rintro ⟨⟩
      · rintro ⟨⟩
    rintro summary markdown ⟨⟩ ⟨⟩
    obtain ⟨hfunctions, hregions, hother⟩ := accounts_of_entries hresult hentries
    have hlength : (scan tag source).regions.length = (scan tag source).descriptors.length :=
      (List.length_map _).symm
    refine ⟨hlength, hfunctions, Reference.isSome_header_iff _, Reference.markdown_eq_empty_iff _,
      hlength.trans hregions, hother, ?_⟩
    rw [warnings_generate, warnings_check]
  · rw [check_result, generate_result, hresult]
    constructor
    · intro malformed
      constructor
      · rintro ⟨⟩
        rfl
      · rintro ⟨⟩
        rfl
    rintro summary markdown ⟨⟩

/-- Two classes, a function that is written again, and a region left open. -/
def mixedSource : String :=
  "/* doc \x7b\"name\":\"f\"\x7d */\n/* doc \x7b\"class\":\"C\"\x7d */\n" ++
    "/* doc \x7b\"name\":\"f\",\"text\":\"t\"\x7d */\n" ++
    "/* doc \x7b\"class\":\"D\"\x7d */\n/* doc \x7b\n"

theorem check_iff_generate_mixed :
    (check "doc" mixedSource).result = .ok ⟨4, true, 1⟩ ∧
      (generate "doc" mixedSource).result =
        .ok "# C\n\n\n## Methods\n\n- [f](#f)\n\n---\n\n## f()\n\nt\n\n```\n\n```\n\n" ∧
      (check "doc" mixedSource).warnings.countP Event.isDropped = 2 ∧
      (check "doc" mixedSource).warnings.filter (!·.isDropped) = [.regionUnclosed 5] := by
  have hdescriptors : (scan "doc" mixedSource).descriptors =
      [⟨1, "\x7b\"name\":\"f\"\x7d"⟩, ⟨2, "\x7b\"class\":\"C\"\x7d"⟩,
        ⟨3, "\x7b\"name\":\"f\",\"text\":\"t\"\x7d"⟩, ⟨4, "\x7b\"class\":\"D\"\x7d"⟩] := by
    decide +kernel
  have hlength : (scan "doc" mixedSource).regions.length = 4 := by decide +kernel
  have hcheck : (check "doc" mixedSource).result = .ok ⟨4, true, 1⟩ := by
    rw [check_result, hdescriptors, hlength]
    rfl
  have hgenerate : (generate "doc" mixedSource).result =
      .ok "# C\n\n\n## Methods\n\n- [f](#f)\n\n---\n\n## f()\n\nt\n\n```\n\n```\n\n" := by
    rw [generate_result, hdescriptors]
    rfl
  obtain ⟨-, -, -, -, hregions, hother, -⟩ :=
    (check_iff_generate "doc" mixedSource).2 _ _ hcheck hgenerate
  simp only [if_true] at hregions
  have hunclosed : (scan "doc" mixedSource).unclosed = some 5 := by decide +kernel
  rw [hunclosed] at hother
  exact ⟨hcheck, hgenerate, by omega, hother⟩

end DocBlocks
