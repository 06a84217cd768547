import DocBlocks.Build
import DocBlocks.Proofs.Concatenation

/-!
The descriptor that fails a run. It is the first malformed one of the source, it is
reported as it is found alone, and text that is written behind it changes nothing.
-/
namespace DocBlocks

/-- What is wrong with the first malformed one of some descriptors. -/
def FirstMalformed (descriptors : List Descriptor) (malformed : Malformed) : Prop :=
  ∃ front rest, descriptors = front ++ malformed.descriptor :: rest ∧
    (∀ descriptor ∈ front, ∃ entry, descriptor.entry = .ok entry) ∧
      entryOfText malformed.descriptor.text = .error malformed.flaw

namespace FirstMalformed

variable {descriptors longer : List Descriptor} {malformed : Malformed}

theorem mem (h : FirstMalformed descriptors malformed) : malformed.descriptor ∈ descriptors := by
  obtain ⟨front, rest, rfl, -, -⟩ := h
  exact List.mem_append_right _ List.mem_cons_self

theorem entry_eq (h : FirstMalformed descriptors malformed) :
    malformed.descriptor.entry = .error malformed := by
  obtain ⟨front, rest, -, -, hflaw⟩ := h
  exact Descriptor.entry_eq_error_iff.mpr ⟨rfl, hflaw⟩

theorem of_isPrefix (h : FirstMalformed descriptors malformed) (hbegin : descriptors <+: longer) :
    FirstMalformed longer malformed := by
  obtain ⟨front, rest, rfl, hfront, hflaw⟩ := h
  obtain ⟨more, rfl⟩ := hbegin
  exact ⟨front, rest ++ more, by simp, hfront, hflaw⟩

/-- Reading fails with what is wrong with the first malformed descriptor. -/
theorem iff_result :
    FirstMalformed descriptors malformed ↔
      (readDescriptors descriptors).result = .error malformed := by
  constructor
  · intro h
    have hentry := h.entry_eq
    obtain ⟨front, rest, rfl, hfront, -⟩ := h
    exact Reading.result_of_first_malformed hfront hentry rest
  · intro h
    rcases Reading.result_cases descriptors with
      ⟨entries, hresult, -⟩ | ⟨front, descriptor, rest, found, hsplit, hfront, hfound, hresult⟩
    · cases hresult.symm.trans h
    · obtain rfl := Except.error.inj (hresult.symm.trans h)
      obtain ⟨rfl, hflaw⟩ := Descriptor.entry_eq_error_iff.mp hfound
      exact ⟨front, rest, hsplit, hfront, hflaw⟩

/-- Of descriptors that do not all have entries, one is the first. -/
theorem exists_iff :
    (∃ malformed, FirstMalformed descriptors malformed) ↔
      ∃ descriptor ∈ descriptors, ∃ malformed, descriptor.entry = .error malformed := by
  constructor
  · rintro ⟨malformed, h⟩
    exact ⟨malformed.descriptor, h.mem, malformed, h.entry_eq⟩
  · rintro ⟨descriptor, hmem, malformed, hmalformed⟩
    rcases Reading.result_cases descriptors with
      ⟨entries, -, hentries⟩ | ⟨-, -, -, first, -, -, -, hresult⟩
    · have hentry : descriptor.entry ∈ entries.map .ok := hentries ▸ List.mem_map_of_mem hmem
      obtain ⟨entry, -, hok⟩ := List.mem_map.mp hentry
      cases hok.trans hmalformed
    · exact ⟨first, iff_result.mpr hresult⟩

end FirstMalformed

theorem generate_eq_error_iff {tag source : String} {malformed : Malformed} :
    (generate tag source).result = .error malformed ↔
      FirstMalformed (scan tag source).descriptors malformed := by
  rw [FirstMalformed.iff_result, generate_result]
  cases (readDescriptors (scan tag source).descriptors).result with
  | error first => simp only [Except.map, Except.error.injEq]
  | ok entries =>
    constructor
    · rintro ⟨⟩
    · rintro ⟨⟩

/-- There is no Markdown of a source exactly if one of its descriptors is malformed. The
failure is that of the first malformed descriptor, with its line, its text and what is
wrong with that text. It stays the same when more lines are written behind the source. -/
theorem generate_error_of_first_malformed (tag source : String) :
    ((∃ malformed, (generate tag source).result = .error malformed) ↔
        ∃ descriptor ∈ (scan tag source).descriptors,
          ∃ malformed, descriptor.entry = .error malformed) ∧
      (∀ malformed, (generate tag source).result = .error malformed ↔
        FirstMalformed (scan tag source).descriptors malformed) ∧
      (¬ tag.toList.any Text.isBlank → ∀ malformed back,
        (generate tag source).result = .error malformed →
          (generate tag (source ++ "\n" ++ back)).result = .error malformed) := by
  refine ⟨?_, fun malformed => generate_eq_error_iff, ?_⟩
  · rw [← FirstMalformed.exists_iff]
    exact exists_congr fun malformed => generate_eq_error_iff
  · intro htag malformed back h
    have hbegin := Scan.descriptors_prefix_feed tag source back htag
    exact generate_eq_error_iff.mpr ((generate_eq_error_iff.mp h).of_isPrefix hbegin)

/-- A good region, then one that is no JSON and one that is no entry. -/
def faultySource : String :=
  "/* doc \x7b\"name\":\"f\"\x7d */\n/* doc \x7b\"name\"\x7d */\n/* doc [] */"

def missingColon : Malformed :=
  ⟨⟨2, "\x7b\"name\"\x7d"⟩, .json ⟨.colonExpected, ⟨1, 8⟩⟩⟩

theorem generate_error_of_missing_colon :
    missingColon.message =
        "malformed descriptor at line 2: expected `:` at line 1 column 8" ∧
      (generate "doc" faultySource).result = .error missingColon ∧
      (generate "doc" (faultySource ++ "\n" ++ faultySource)).result = .error missingColon := by
  have htag : ¬ "doc".toList.any Text.isBlank := by decide +kernel
  have hdescriptors : (scan "doc" faultySource).descriptors =
      [⟨1, "\x7b\"name\":\"f\"\x7d"⟩, ⟨2, "\x7b\"name\"\x7d"⟩, ⟨3, "[]"⟩] := by
    decide +kernel
  have hflaw : entryOfText "\x7b\"name\"\x7d" = .error missingColon.flaw := rfl
  obtain ⟨-, hfirst, hlater⟩ := generate_error_of_first_malformed "doc" faultySource
  have hmalformed : (generate "doc" faultySource).result = .error missingColon := by
    refine (hfirst missingColon).mpr ⟨[⟨1, _⟩], [⟨3, _⟩], hdescriptors, ?_, hflaw⟩
    intro descriptor hdescriptor
    obtain rfl := List.mem_singleton.mp hdescriptor
    exact ⟨.ofFunction ⟨"f", [], none, none, none, ""⟩, rfl⟩
  refine ⟨?_, hmalformed, hlater htag missingColon faultySource hmalformed⟩
  decide +kernel

end DocBlocks
