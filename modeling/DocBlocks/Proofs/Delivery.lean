import DocBlocks.Proofs.TreeWalks
import DocBlocks.Run

/-!
What a delivery does to the files. Making directories adds directories at the spots they
are made for and changes nothing else, whether it gets to its end or not; the file is
written last.
-/
namespace DocBlocks

namespace FileTree

variable {tree before middle after : FileTree} {spots : Spot → Prop} {path : String}
variable {α β : Type}

/-- One part of a computation after the other, each from the tree the last one left. -/
theorem exists_run_of_bind {x : StateM FileTree α} {f : α → StateM FileTree β} {result : β}
    (h : (x >>= f).run tree = (result, after)) :
    ∃ a middle, x.run tree = (a, middle) ∧ (f a).run middle = (result, after) :=
  ⟨_, _, rfl, h⟩

theorem eq_of_run_pure {a result : α}
    (h : (pure a : StateM FileTree α).run tree = (result, after)) : result = a ∧ after = tree :=
  ⟨(congrArg Prod.fst h).symm, (congrArg Prod.snd h).symm⟩

theorem eq_of_run_look {found : Found} (h : (files.look path).run tree = (found, after)) :
    found = tree.look path ∧ after = tree :=
  ⟨(congrArg Prod.fst h).symm, (congrArg Prod.snd h).symm⟩

variable {operation : FileTree → Except PathFault FileTree}

theorem eq_ok_of_run_attempt {u : Unit}
    (h : (attempt operation).run tree = (.ok u, after)) : operation tree = .ok after := by
  change attempt operation tree = (.ok u, after) at h
  unfold attempt at h
  split at h
  · next changed hchanged =>
    rw [hchanged, (Prod.mk.inj h).2]
  · cases h

theorem eq_of_run_attempt_error {fault : PathFault}
    (h : (attempt operation).run tree = (.error fault, after)) : after = tree := by
  change attempt operation tree = (.error fault, after) at h
  unfold attempt at h
  split at h
  · cases h
  · exact (Prod.mk.inj h).2.symm

/-- Some directories were added where nothing was, and that is all. -/
def Grown (spots : Spot → Prop) (before after : FileTree) : Prop :=
  ∀ spot, after.get? spot = before.get? spot ∨
    spots spot ∧ before.get? spot = none ∧ after.get? spot = some .directory

namespace Grown

theorem refl (tree : FileTree) : Grown spots tree tree := fun _ => .inl rfl

theorem trans (hfirst : Grown spots before middle) (hthen : Grown spots middle after) :
    Grown spots before after := by
  intro spot
  rcases hthen spot with hsame | ⟨hspot, hnone, hadded⟩
  · rw [hsame]
    exact hfirst spot
  · rcases hfirst spot with hsame | ⟨-, -, hdirectory⟩
    · exact .inr ⟨hspot, hsame ▸ hnone, hadded⟩
    · rw [hdirectory] at hnone
      cases hnone

theorem get?_eq_file_iff (h : Grown spots before after) {spot : Spot} {bytes : ByteArray} :
    after.get? spot = some (.file bytes) ↔ before.get? spot = some (.file bytes) := by
  rcases h spot with hsame | ⟨-, hnone, hadded⟩
  · rw [hsame]
  · simp [hnone, hadded]

theorem of_makeDirectory (hspot : spots (Spot.ofPath path)) {result : Except PathFault Unit}
    (h : (files.makeDirectory path).run tree = (result, after)) : Grown spots tree after := by
  cases result with
  | error fault =>
    rw [eq_of_run_attempt_error h]
    exact refl tree
  | ok =>
    obtain ⟨hnone, hget⟩ := makeDirectory_eq_ok (eq_ok_of_run_attempt h)
    intro spot
    by_cases hpath : spot = Spot.ofPath path
    · subst hpath
      exact .inr ⟨hspot, hnone, by rw [hget, if_pos rfl]⟩
    · exact .inl (by rw [hget, if_neg hpath])

theorem of_unlessDirectory {fault : PathFault} {result : Except PathFault Unit}
    (h : (files.unlessDirectory path fault).run tree = (result, after)) :
    Grown spots tree after := by
  obtain ⟨found, middle, hlook, h⟩ := exists_run_of_bind h
  obtain ⟨-, rfl⟩ := eq_of_run_look hlook
  cases found with
  | directory =>
    obtain ⟨-, rfl⟩ := eq_of_run_pure h
    exact refl after
  | missing =>
    obtain ⟨-, rfl⟩ := eq_of_run_pure h
    exact refl after
  | file bytes =>
    obtain ⟨-, rfl⟩ := eq_of_run_pure h
    exact refl after

/-- By induction on the directories, of which the outer ones are made in between. -/
theorem of_makeDirectories {paths : List String} (hspots : ∀ path ∈ paths, spots (Spot.ofPath path))
    {result : Except PathFault Unit}
    (h : (files.makeDirectories paths).run tree = (result, after)) : Grown spots tree after := by
  induction paths generalizing tree after result with
  | nil =>
    obtain ⟨-, rfl⟩ := eq_of_run_pure h
    exact refl after
  | cons path paths ih =>
    obtain ⟨hspot, houter⟩ := List.forall_mem_cons.mp hspots
    obtain ⟨first, middle, hfirst, h⟩ := exists_run_of_bind h
    have hgrown : Grown spots tree middle := of_makeDirectory hspot hfirst
    refine hgrown.trans ?_
    rcases first with (_ | _ | _ | _ | _ | _) | _
    case error.missing =>
      obtain ⟨made, between, hmade, h⟩ := exists_run_of_bind h
      refine (ih houter hmade).trans ?_
      cases made with
      | error fault =>
        obtain ⟨-, rfl⟩ := eq_of_run_pure h
        exact refl after
      | ok =>
        obtain ⟨again, last, hagain, h⟩ := exists_run_of_bind h
        refine (of_makeDirectory hspot hagain).trans ?_
        cases again with
        | error fault => exact of_unlessDirectory h
        | ok =>
          obtain ⟨-, rfl⟩ := eq_of_run_pure h
          exact refl after
    case ok =>
      obtain ⟨-, rfl⟩ := eq_of_run_pure h
      exact refl after
    all_goals exact of_unlessDirectory h

end Grown

/-- A file was put at the end of a path, with the directories that its way was missing,
and the rest stayed as it was. -/
structure Delivered (before after : FileTree) (path : String) (bytes : ByteArray) : Prop where
  written : after.get? (Spot.ofPath path) = some (.file bytes)
  /-- No directory made room for the file. -/
  free : before.get? (Spot.ofPath path) ≠ some .directory
  outer : ∀ spot, Spot.LeadsThrough path spot → after.get? spot = some .directory
  /-- No file made room for a directory. -/
  made : ∀ spot, Spot.LeadsThrough path spot →
    before.get? spot = some .directory ∨ before.get? spot = none
  rest : ∀ spot, spot ≠ Spot.ofPath path → ¬ Spot.LeadsThrough path spot →
    after.get? spot = before.get? spot

theorem delivered_of_written {bytes : ByteArray}
    (hgrown : Grown (Spot.LeadsThrough path) before middle)
    (hwritten : Written middle after path bytes) : Delivered before after path bytes where
  written := by rw [hwritten.get?_eq, if_pos rfl]
  free := by
    rcases hgrown (Spot.ofPath path) with hsame | ⟨-, -, hadded⟩
    · exact hsame ▸ hwritten.free
    · exact absurd hadded hwritten.free
  outer spot hspot := by
    have hdirectory := hwritten.outer spot hspot
    have hne : spot ≠ Spot.ofPath path := by
      rintro rfl
      exact hwritten.free hdirectory
    rw [hwritten.get?_eq, if_neg hne, hdirectory]
  made spot hspot := by
    rcases hgrown spot with hsame | ⟨-, hnone, -⟩
    · exact .inl (hsame ▸ hwritten.outer spot hspot)
    · exact .inr hnone
  rest spot hne hspot := by
    rw [hwritten.get?_eq, if_neg hne]
    exact (hgrown spot).resolve_right fun h => hspot h.1

end FileTree

namespace Options

open FileTree

variable {options : Options} {tree after : FileTree} {report : Report}

/-- A delivery to a file ends with the file and nothing shown, or fails with all files as
they were. -/
theorem run_deliver_file {events : List Event} {markdown path : String}
    (hpath : options.output = some path)
    (h : (options.deliver files events markdown).run tree = (report, after)) :
    report.output = "" ∧
      ((report.failure = none ∧ Delivered tree after path markdown.toUTF8) ∨
        (report.failure ≠ none ∧ Grown (Spot.LeadsThrough path) tree after)) := by
  unfold deliver at h
  rw [hpath] at h
  obtain ⟨made, middle, hmade, h⟩ := exists_run_of_bind h
  have hgrown := Grown.of_makeDirectories (fun t => Spot.leadsThrough_of_mem) hmade
  cases made with
  | error fault =>
    obtain ⟨rfl, rfl⟩ := eq_of_run_pure h
    exact ⟨rfl, .inr ⟨Option.some_ne_none _, hgrown⟩⟩
  | ok =>
    obtain ⟨done, last, hdone, h⟩ := exists_run_of_bind h
    cases done with
    | error fault =>
      obtain ⟨rfl, rfl⟩ := eq_of_run_pure h
      rw [eq_of_run_attempt_error hdone]
      exact ⟨rfl, .inr ⟨Option.some_ne_none _, hgrown⟩⟩
    | ok =>
      obtain ⟨rfl, rfl⟩ := eq_of_run_pure h
      have hwritten := written_of_write (eq_ok_of_run_attempt hdone)
      exact ⟨rfl, .inl ⟨rfl, delivered_of_written hgrown hwritten⟩⟩

theorem run_deliver_shown {events : List Event} {markdown : String} (hnone : options.output = none)
    (h : (options.deliver files events markdown).run tree = (report, after)) :
    report.output = markdown ∧ report.failure = none ∧ after = tree := by
  unfold deliver at h
  rw [hnone] at h
  obtain ⟨rfl, rfl⟩ := eq_of_run_pure h
  exact ⟨rfl, rfl, rfl⟩

end Options
end DocBlocks
