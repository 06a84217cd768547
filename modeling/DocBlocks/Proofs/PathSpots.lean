import DocBlocks.Files.Tree
import Mathlib.Data.List.Basic

/-!
Where a path leads when nothing is looked up on the way: from its start, one part after
the other. The directories that are made for a path are among those it leads through.
-/
namespace DocBlocks

namespace Spot

def up (spot : Spot) : Spot :=
  if spot.names = [] then ⟨spot.base.up, []⟩ else ⟨spot.base, spot.names.dropLast⟩

/-- The spot that a part of a path leads to. -/
def enter (spot : Spot) (part : String) : Spot :=
  if part = "" ∨ part = "." then spot
  else if part = ".." then spot.up
  else ⟨spot.base, spot.names ++ [part]⟩

def start (parts : List String) : Spot :=
  ⟨if parts.head? = some "" then .top else .above 0, []⟩

def ofParts (parts : List String) : Spot := parts.foldl enter (start parts)

/-- The spot at the end of a path. -/
def ofPath (path : String) : Spot := ofParts (Path.parts path)

/-- A spot on the way to the last part of some parts. -/
def OnWay (parts : List String) (spot : Spot) : Prop :=
  ∃ front, front <+: parts.dropLast ∧ spot = front.foldl enter (start parts)

/-- A spot that a path leads through before its last part. -/
def LeadsThrough (path : String) (spot : Spot) : Prop := OnWay (Path.parts path) spot

end Spot

namespace Path

theorem splitSlashes_of_not_mem {part : List Char} (h : '/' ∉ part) :
    splitSlashes part = [part] := by
  induction part with
  | nil => rfl
  | cons c part ih =>
    obtain ⟨hc, hpart⟩ := not_or.mp (mt List.mem_cons.mpr h)
    simp only [splitSlashes, if_neg (Ne.symm hc), ih hpart]

theorem splitSlashes_ne_nil (text : List Char) : splitSlashes text ≠ [] := by
  cases text with
  | nil => exact List.cons_ne_nil _ _
  | cons c text =>
    unfold splitSlashes
    split
    · exact List.cons_ne_nil _ _
    · split
      · exact List.cons_ne_nil _ _
      · exact List.cons_ne_nil _ _

theorem splitSlashes_append (front back : List Char) :
    splitSlashes (front ++ '/' :: back) = splitSlashes front ++ splitSlashes back := by
  induction front with
  | nil => rfl
  | cons c front ih =>
    rw [List.cons_append, splitSlashes, splitSlashes, ih]
    split
    · rfl
    · cases hfront : splitSlashes front with
      | nil => exact absurd hfront (splitSlashes_ne_nil front)
      | cons part later => rfl

theorem not_mem_of_splitSlashes {text part : List Char} (h : part ∈ splitSlashes text) :
    '/' ∉ part := by
  induction text generalizing part with
  | nil =>
    rw [List.mem_singleton.mp h]
    exact List.not_mem_nil
  | cons c text ih =>
    unfold splitSlashes at h
    split at h
    · rcases List.mem_cons.mp h with rfl | h
      · exact List.not_mem_nil
      · exact ih h
    · next hc =>
      cases hsplit : splitSlashes text with
      | nil =>
        rw [hsplit] at h
        simpa [List.mem_singleton.mp h] using Ne.symm hc
      | cons first later =>
        rw [hsplit] at h ih
        rcases List.mem_cons.mp h with rfl | h
        · exact List.not_mem_cons_of_ne_of_not_mem (Ne.symm hc) (ih List.mem_cons_self)
        · exact ih (List.mem_cons_of_mem first h)

theorem not_mem_of_parts {path part : String} (h : part ∈ parts path) : '/' ∉ part.toList := by
  obtain ⟨text, htext, rfl⟩ := List.mem_map.mp h
  rw [String.toList_ofList]
  exact not_mem_of_splitSlashes htext

theorem parts_ne_nil (path : String) : parts path ≠ [] := by
  rw [parts, ne_eq, List.map_eq_nil_iff]
  exact splitSlashes_ne_nil path.toList

theorem parts_of_not_mem {part : String} (h : '/' ∉ part.toList) : parts part = [part] := by
  rw [parts, splitSlashes_of_not_mem h, List.map_singleton, String.ofList_toList]

theorem parts_append {part : String} (h : '/' ∉ part.toList) (before : String) :
    parts (before ++ "/" ++ part) = parts before ++ [part] := by
  have htext : (before ++ "/" ++ part).toList = before.toList ++ '/' :: part.toList := by
    simp only [String.toList_append, List.append_assoc]
    rfl
  rw [parts, htext, splitSlashes_append, List.map_append, ← parts, ← parts, parts_of_not_mem h]

theorem mem_dropLast_cons {t first : String} {later : List String}
    (h : t ∈ (first :: later).dropLast) : later ≠ [] ∧ (t = first ∨ t ∈ later.dropLast) := by
  cases later with
  | nil => exact absurd h List.not_mem_nil
  | cons second later => exact ⟨List.cons_ne_nil _ _, List.mem_cons.mp h⟩

theorem rest_ne_nil_of_trailFrom {before : String} {rest : List String}
    (h : trailFrom before rest ≠ []) : rest ≠ [] := by
  rintro rfl
  exact h rfl

/-- The paths of a trail but for the last one have parts before the last part. -/
theorem parts_of_mem_trailFrom {before t : String} {rest : List String}
    (hrest : ∀ part ∈ rest, '/' ∉ part.toList) (h : t ∈ (trailFrom before rest).dropLast) :
    ∃ taken, taken <+: rest.dropLast ∧ parts t = parts before ++ taken := by
  induction rest generalizing before with
  | nil => exact absurd h List.not_mem_nil
  | cons part rest ih =>
    obtain ⟨hpart, hlater⟩ := List.forall_mem_cons.mp hrest
    have hhere := parts_append hpart before
    have hdeeper : t ∈ (trailFrom (before ++ "/" ++ part) rest).dropLast →
        ∃ taken, taken <+: (part :: rest).dropLast ∧ parts t = parts before ++ taken := by
      intro hmem
      have hne := rest_ne_nil_of_trailFrom (List.ne_nil_of_mem (List.dropLast_subset _ hmem))
      obtain ⟨taken, htaken, hparts⟩ := ih hlater hmem
      refine ⟨part :: taken, ?_, ?_⟩
      · rw [List.dropLast_cons_of_ne_nil hne]
        exact List.cons_prefix_cons.mpr ⟨rfl, htaken⟩
      · rw [hparts, hhere, List.append_assoc, List.singleton_append]
    simp only [trailFrom] at h
    split at h
    · exact hdeeper h
    · obtain ⟨hne, rfl | hmem⟩ := mem_dropLast_cons h
      · refine ⟨[part], ?_, hhere⟩
        rw [List.dropLast_cons_of_ne_nil (rest_ne_nil_of_trailFrom hne)]
        exact List.cons_prefix_cons.mpr ⟨rfl, List.nil_prefix⟩
      · exact hdeeper hmem

/-- The directories around the end of a path have parts before its last part. -/
theorem parts_prefix_of_mem {path t : String} (h : t ∈ outerDirectories path) :
    parts t <+: (parts path).dropLast := by
  have hslash : ∀ part ∈ parts path, '/' ∉ part.toList := fun _ => not_mem_of_parts
  rw [outerDirectories, List.mem_reverse, trail] at h
  cases hparts : parts path with
  | nil => exact absurd hparts (parts_ne_nil path)
  | cons first rest =>
    rw [hparts] at h hslash
    obtain ⟨hfirst, hrest⟩ := List.forall_mem_cons.mp hslash
    have hself := parts_of_not_mem hfirst
    have hdeeper : t ∈ (trailFrom first rest).dropLast → parts t <+: (first :: rest).dropLast := by
      intro hmem
      have hne := rest_ne_nil_of_trailFrom (List.ne_nil_of_mem (List.dropLast_subset _ hmem))
      obtain ⟨taken, htaken, htext⟩ := parts_of_mem_trailFrom hrest hmem
      rw [htext, hself, List.dropLast_cons_of_ne_nil hne]
      exact List.cons_prefix_cons.mpr ⟨rfl, htaken⟩
    simp only at h
    split at h
    · exact hdeeper h
    · obtain ⟨hne, rfl | hmem⟩ := mem_dropLast_cons h
      · rw [hself, List.dropLast_cons_of_ne_nil (rest_ne_nil_of_trailFrom hne)]
        exact List.cons_prefix_cons.mpr ⟨rfl, List.nil_prefix⟩
      · exact hdeeper hmem

end Path

namespace Spot

theorem start_of_prefix {parts longer : List String} (hne : parts ≠ [])
    (h : parts <+: longer) : start parts = start longer := by
  obtain ⟨first, rest, rfl⟩ := List.exists_cons_of_ne_nil hne
  obtain ⟨more, rfl⟩ := h
  rfl

theorem leadsThrough_of_mem {path t : String} (h : t ∈ Path.outerDirectories path) :
    LeadsThrough path (ofPath t) := by
  have hparts := Path.parts_prefix_of_mem h
  refine ⟨Path.parts t, hparts, ?_⟩
  rw [ofPath, ofParts,
    start_of_prefix (Path.parts_ne_nil t) (hparts.trans (List.dropLast_prefix _))]

end Spot
end DocBlocks
