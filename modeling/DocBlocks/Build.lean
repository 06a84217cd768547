import DocBlocks.Event
import DocBlocks.Reference.Markdown

/-!
From a source text to its reference, to the Markdown of it, or to a summary.
One malformed descriptor fails the whole; it is the first in the source.
-/
namespace DocBlocks

/-- What a source text holds, and how that is arranged. -/
structure Survey where
  scan : Scan
  reading : Reading
  arrangement : Except Malformed Arrangement

def survey (tag source : String) : Survey :=
  let found := scan tag source
  let reading := readDescriptors found.descriptors
  ⟨found, reading, reading.result.map arrange⟩

namespace Survey

def events (survey : Survey) : List Event :=
  survey.scan.events ++ survey.reading.events survey.scan.descriptors ++
    (match survey.arrangement with
      | .ok arrangement => arrangement.events
      | .error _ => [])

end Survey

/-- A result with the events on the way to it. -/
structure Logged (α : Type) where
  events : List Event
  result : Except Malformed α

namespace Logged

def map {α β : Type} (f : α → β) (logged : Logged α) : Logged β :=
  ⟨logged.events, logged.result.map f⟩

def warnings {α : Type} (logged : Logged α) : List Event := logged.events.filter (·.isWarning)

end Logged

/-- The number of regions and the reference they make. -/
def build (tag source : String) : Logged (Nat × Reference) :=
  let found := survey tag source
  ⟨found.events,
    found.arrangement.map fun arrangement =>
      (found.scan.regions.length, arrangement.reference)⟩

/-- What is built of a source, told by its entries. -/
theorem build_result (tag source : String) :
    (build tag source).result =
      (readDescriptors (scan tag source).descriptors).result.map fun entries =>
        ((scan tag source).regions.length, (arrange entries).reference) := by
  simp only [build, survey]
  cases (readDescriptors (scan tag source).descriptors).result with
  | error malformed => rfl
  | ok entries => rfl

structure Summary where
  regions : Nat
  hasClass : Bool
  functions : Nat
  deriving DecidableEq

def check (tag source : String) : Logged Summary :=
  (build tag source).map fun (regions, reference) =>
    ⟨regions, reference.header.isSome, reference.functions.length⟩

theorem check_result (tag source : String) :
    (check tag source).result =
      (readDescriptors (scan tag source).descriptors).result.map fun entries =>
        ⟨(scan tag source).regions.length, (arrange entries).reference.header.isSome,
          (arrange entries).reference.functions.length⟩ := by
  simp only [check, Logged.map, build_result]
  cases (readDescriptors (scan tag source).descriptors).result with
  | error malformed => rfl
  | ok entries => rfl

def generate (tag source : String) : Logged String :=
  let built := build tag source
  let markdown := built.result.map fun (_, reference) => reference.markdown
  ⟨built.events ++
    (match markdown with
      | .ok text => [.rendered text.utf8ByteSize]
      | .error _ => []),
    markdown⟩

theorem generate_result (tag source : String) :
    (generate tag source).result =
      (readDescriptors (scan tag source).descriptors).result.map fun entries =>
        (arrange entries).reference.markdown := by
  simp only [generate, build_result]
  cases (readDescriptors (scan tag source).descriptors).result with
  | error malformed => rfl
  | ok entries => rfl

/-- A check fails as the Markdown does. -/
theorem check_eq_error {tag source : String} {malformed : Malformed}
    (h : (generate tag source).result = .error malformed) :
    (check tag source).result = .error malformed := by
  rw [generate_result] at h
  rw [check_result]
  cases hread : (readDescriptors (scan tag source).descriptors).result with
  | error other =>
    rw [hread] at h
    cases h
    rfl
  | ok entries =>
    rw [hread] at h
    cases h

theorem exists_check_eq_ok {tag source markdown : String}
    (h : (generate tag source).result = .ok markdown) :
    ∃ summary, (check tag source).result = .ok summary := by
  rw [generate_result] at h
  rw [check_result]
  cases hread : (readDescriptors (scan tag source).descriptors).result with
  | error malformed =>
    rw [hread] at h
    cases h
  | ok entries => exact ⟨_, rfl⟩

end DocBlocks
