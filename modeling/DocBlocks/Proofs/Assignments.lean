import DocBlocks.CommandLine.Parse
import Mathlib.Data.List.Perm.Basic
import Mathlib.Data.List.Nodup

/-!
Settings told by what is assigned to the arguments. Each argument may be assigned once;
assignments to different ones can be made in any order, and a second one to an argument is
refused, wherever it stands.
-/
namespace DocBlocks

/-- A value for an argument; that of a flag is empty. -/
structure Assignment where
  argument : Argument
  value : String
  deriving DecidableEq

namespace Argument

/-- The argument is kept among the settings. -/
def isSetting : Argument → Bool
  | .help | .version => false
  | _ => true

end Argument

/-- The arguments that are assigned, in order. -/
def assigned (given : List Assignment) : List Argument := given.map (·.argument)

theorem assigned_append (front back : List Assignment) :
    assigned (front ++ back) = assigned front ++ assigned back := List.map_append

namespace Settings

variable {settings next : Settings} {assignment : Assignment} {given other : List Assignment}

def assign (settings : Settings) (assignment : Assignment) : Step :=
  if settings.has assignment.argument then refuse (.repeated assignment.argument)
  else .ok (settings.set assignment.argument assignment.value)

theorem assign_eq_ok (h : settings.assign assignment = .ok next) :
    next = settings.set assignment.argument assignment.value := by
  unfold assign at h
  split at h
  · cases h
  · exact (Except.ok.inj h).symm

/-- All assignments one after the other, without a check. -/
def setAll (settings : Settings) (given : List Assignment) : Settings :=
  given.foldl (fun state assignment => state.set assignment.argument assignment.value) settings

theorem has_set (settings : Settings) (argument other : Argument) (value : String) :
    (settings.set argument value).has other =
      (settings.has other || (argument.isSetting && decide (argument = other))) := by
  cases argument <;> cases other <;> simp [set, has, Argument.isSetting]

theorem set_comm (settings : Settings) {argument other : Argument} (h : argument ≠ other)
    (value more : String) :
    (settings.set argument value).set other more =
      (settings.set other more).set argument value := by
  cases argument <;> cases other <;> simp_all [set]

/-- Assignments to different arguments come to the same in any order. -/
theorem setAll_of_perm (h : given.Perm other) (hnodup : (assigned given).Nodup) :
    settings.setAll given = settings.setAll other := by
  apply h.foldl_eq'
  intro first hfirst second hsecond state
  by_cases hsame : first.argument = second.argument
  · have heq : first = second := List.inj_on_of_nodup_map hnodup hfirst hsecond hsame
    rw [heq]
  · exact set_comm state hsame _ _

/-- Assignments are all made if no argument has been assigned before; else the first that is
assigned again is named. -/
theorem foldlM_assign_cases (settings : Settings) (hgiven : ∀ a ∈ assigned given, a.isSetting) :
    (given.foldlM assign settings = .ok (settings.setAll given) ∧ (assigned given).Nodup ∧
        ∀ a ∈ assigned given, settings.has a = false) ∨
      ∃ a ∈ assigned given, given.foldlM assign settings = .error (.misuse (.repeated a)) ∧
        (settings.has a = true ∨ 1 < (assigned given).count a) := by
  induction given generalizing settings with
  | nil => exact Or.inl ⟨rfl, List.nodup_nil, by simp [assigned]⟩
  | cons first given ih =>
    obtain ⟨hfirst, hrest⟩ := List.forall_mem_cons.mp hgiven
    rw [List.foldlM_cons]
    cases hhas : settings.has first.argument with
    | true =>
      refine Or.inr ⟨first.argument, List.mem_cons_self, ?_, Or.inl hhas⟩
      rw [assign, if_pos hhas]
      rfl
    | false =>
      have hassign : settings.assign first = .ok (settings.set first.argument first.value) := by
        rw [assign, hhas]
        rfl
      rw [hassign]
      have hset : ∀ a, (settings.set first.argument first.value).has a =
          (settings.has a || decide (first.argument = a)) := by
        intro a
        rw [has_set, hfirst, Bool.true_and]
      rcases ih (settings.set first.argument first.value) hrest with
        ⟨hok, hnodup, hnew⟩ | ⟨a, hmem, herror, htwice⟩
      · have hold : ∀ a ∈ assigned given, settings.has a = false ∧ first.argument ≠ a := by
          intro a hmem
          simpa only [hset, Bool.or_eq_false_iff, decide_eq_false_iff_not] using hnew a hmem
        refine Or.inl ⟨hok, List.nodup_cons.mpr ⟨?_, hnodup⟩, List.forall_mem_cons.mpr ⟨hhas, ?_⟩⟩
        · intro hmem
          exact (hold _ hmem).2 rfl
        · intro a hmem
          exact (hold a hmem).1
      · refine Or.inr ⟨a, List.mem_cons_of_mem _ hmem, herror, ?_⟩
        rw [hset, Bool.or_eq_true, decide_eq_true_iff, or_assoc] at htwice
        refine htwice.imp_right ?_
        intro hagain
        have hone := List.count_pos_iff.mpr hmem
        change 1 < (first.argument :: assigned given).count a
        rw [List.count_cons]
        rcases hagain with rfl | hmore
        · rw [beq_self_eq_true, if_pos rfl]
          omega
        · omega

theorem has_empty (argument : Argument) : empty.has argument = false := by
  cases argument <;> rfl

theorem foldlM_assign_of_nodup (hgiven : ∀ a ∈ assigned given, a.isSetting)
    (h : (assigned given).Nodup) : given.foldlM assign empty = .ok (empty.setAll given) := by
  rcases foldlM_assign_cases empty hgiven with ⟨hok, -, -⟩ | ⟨a, -, -, hhas | htwice⟩
  · exact hok
  · rw [has_empty] at hhas
    cases hhas
  · have honce := List.nodup_iff_count_le_one.mp h a
    omega

theorem exists_repeated (hgiven : ∀ a ∈ assigned given, a.isSetting)
    (h : ¬ (assigned given).Nodup) :
    ∃ a, 1 < (assigned given).count a ∧
      given.foldlM assign empty = .error (.misuse (.repeated a)) := by
  rcases foldlM_assign_cases empty hgiven with ⟨-, hnodup, -⟩ | ⟨a, -, herror, hhas | htwice⟩
  · exact absurd hnodup h
  · rw [has_empty] at hhas
    cases hhas
  · exact ⟨a, htwice, herror⟩

end Settings

/-- What is to be assigned for settings, of which some may not be given. -/
def assignments (source : String) (output tag : Option String) (checkOnly verbose : Bool) :
    List Assignment :=
  ⟨.source, source⟩ :: (output.toList.map (⟨.output, ·⟩) ++ tag.toList.map (⟨.tag, ·⟩) ++
    (if checkOnly then [⟨.check, ""⟩] else []) ++ if verbose then [⟨.verbose, ""⟩] else [])

variable (source : String) (output tag : Option String) (checkOnly verbose : Bool)

theorem nodup_assignments :
    (assigned (assignments source output tag checkOnly verbose)).Nodup := by
  cases output <;> cases tag <;> cases checkOnly <;> cases verbose <;>
    simp [assigned, assignments]

theorem setAll_assignments :
    Settings.empty.setAll (assignments source output tag checkOnly verbose) =
      ⟨some source, output, tag, checkOnly, verbose, none, false⟩ := by
  cases output <;> cases tag <;> cases checkOnly <;> cases verbose <;> rfl

end DocBlocks
