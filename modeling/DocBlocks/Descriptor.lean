import DocBlocks.Json.Reader
import DocBlocks.Entry.Decode

/-!
A descriptor is the text of a region with the line on which the region begins.
Reading one gives its entry; reading several stops at the first malformed one.
-/
namespace DocBlocks

structure Descriptor where
  line : Nat
  text : String
  deriving DecidableEq

inductive Flaw
  | json (fault : Json.Fault)
  | shape (mismatch : Mismatch)

def Flaw.message : Flaw → String
  | .json fault => fault.message
  | .shape mismatch => mismatch.message

structure Malformed where
  descriptor : Descriptor
  flaw : Flaw

def Malformed.message (malformed : Malformed) : String :=
  "malformed descriptor at line " ++ toString malformed.descriptor.line ++ ": " ++
    malformed.flaw.message

/-- The entry that a text describes, if the text is JSON of the right shape. -/
def entryOfText (text : String) : Except Flaw Entry :=
  match Json.read text.toList with
  | .error fault => .error (.json fault)
  | .ok value => (Decode.entry value).mapError .shape

def Descriptor.entry (descriptor : Descriptor) : Except Malformed Entry :=
  (entryOfText descriptor.text).mapError (⟨descriptor, ·⟩)

/-- The entries before the first malformed descriptor, and that one. -/
structure Reading where
  entries : List Entry
  malformed : Option Malformed

def readDescriptors : List Descriptor → Reading
  | [] => ⟨[], none⟩
  | descriptor :: rest =>
      match descriptor.entry with
      | .ok entry =>
          let later := readDescriptors rest
          ⟨entry :: later.entries, later.malformed⟩
      | .error malformed => ⟨[], some malformed⟩

/-- All entries, or the first malformed descriptor. -/
def Reading.result (reading : Reading) : Except Malformed (List Entry) :=
  match reading.malformed with
  | none => .ok reading.entries
  | some malformed => .error malformed

theorem Descriptor.entry_eq_error_iff {descriptor : Descriptor} {malformed : Malformed} :
    descriptor.entry = .error malformed ↔
      malformed.descriptor = descriptor ∧ entryOfText descriptor.text = .error malformed.flaw := by
  obtain ⟨other, flaw⟩ := malformed
  unfold entry
  cases entryOfText descriptor.text with
  | ok found =>
    constructor
    · intro h
      cases h
    · rintro ⟨-, h⟩
      cases h
  | error found =>
    constructor
    · intro h
      obtain ⟨rfl, rfl⟩ := Malformed.mk.inj (Except.error.inj h)
      exact ⟨rfl, rfl⟩
    · rintro ⟨rfl, h⟩
      obtain rfl := Except.error.inj h
      rfl

namespace Reading

theorem result_cons_ok {descriptor : Descriptor} {entry : Entry}
    (h : descriptor.entry = .ok entry) (rest : List Descriptor) :
    (readDescriptors (descriptor :: rest)).result =
      (readDescriptors rest).result.map (entry :: ·) := by
  simp only [readDescriptors, h, result]
  cases (readDescriptors rest).malformed with
  | none => rfl
  | some malformed => rfl

/-- The first descriptor that is malformed is reported, whatever stands behind it. -/
theorem result_of_first_malformed {front : List Descriptor} {descriptor : Descriptor}
    {malformed : Malformed} (hfront : ∀ d ∈ front, ∃ entry, d.entry = .ok entry)
    (h : descriptor.entry = .error malformed) (rest : List Descriptor) :
    (readDescriptors (front ++ descriptor :: rest)).result = .error malformed := by
  induction front with
  | nil => simp only [List.nil_append, readDescriptors, h, result]
  | cons first front ih =>
    obtain ⟨⟨entry, hentry⟩, hlater⟩ := List.forall_mem_cons.mp hfront
    rw [List.cons_append, result_cons_ok hentry, ih hlater]
    rfl

/-- Either all descriptors have entries, or there is a first one that is malformed. -/
theorem result_cases (descriptors : List Descriptor) :
    (∃ entries, (readDescriptors descriptors).result = .ok entries ∧
        descriptors.map Descriptor.entry = entries.map .ok) ∨
      ∃ front descriptor rest malformed, descriptors = front ++ descriptor :: rest ∧
        (∀ d ∈ front, ∃ entry, d.entry = .ok entry) ∧
        descriptor.entry = .error malformed ∧
        (readDescriptors descriptors).result = .error malformed := by
  induction descriptors with
  | nil => exact Or.inl ⟨[], rfl, rfl⟩
  | cons first later ih =>
    cases hfirst : first.entry with
    | error malformed =>
      have hnone : ∀ d ∈ [], ∃ entry, Descriptor.entry d = .ok entry := by simp
      have hresult := result_of_first_malformed hnone hfirst later
      exact Or.inr ⟨[], first, later, malformed, rfl, hnone, hfirst, hresult⟩
    | ok entry =>
      rcases ih with ⟨entries, hresult, hentries⟩ | ⟨front, d, rest, malformed, rfl, hfront, hd, _⟩
      · refine Or.inl ⟨entry :: entries, ?_, ?_⟩
        · rw [result_cons_ok hfirst, hresult]
          rfl
        · rw [List.map_cons, List.map_cons, hfirst, hentries]
      · have hall : ∀ d ∈ first :: front, ∃ entry, d.entry = .ok entry :=
          List.forall_mem_cons.mpr ⟨⟨entry, hfirst⟩, hfront⟩
        have hresult := result_of_first_malformed hall hd rest
        exact Or.inr ⟨first :: front, d, rest, malformed, rfl, hall, hd, hresult⟩

end Reading

end DocBlocks
