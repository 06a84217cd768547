import DocBlocks.Proofs.PathSpots
import DocBlocks.Proofs.Success

/-!
Paths that are followed in a tree. A walk that succeeds ends at the spot its path leads to,
and all it goes through are directories. So what is read, made or written for a path is at
the spot of that path, and the rest of the tree stays as it is.
-/
namespace DocBlocks

/-- A name leads a step down. -/
theorem Spot.enter_of_isName {part : String} (h : FileTree.isName part = true) (spot : Spot) :
    spot.enter part = ⟨spot.base, spot.names ++ [part]⟩ := by
  simp only [FileTree.isName, Bool.and_eq_true, bne_iff_ne] at h
  obtain ⟨⟨hempty, hdot⟩, hdots⟩ := h
  rw [Spot.enter, if_neg (not_or.mpr ⟨hempty, hdot⟩), if_neg hdots]

namespace FileTree

variable {tree after : FileTree} {path : String} {parts : List String}

namespace Visit

variable {visit next : Visit} {name part : String}

/-- The directory that a visit is in. -/
def folder (tree : FileTree) (visit : Visit) : Folder :=
  match visit.trail with
  | [] => tree.folder visit.base
  | (_, inner) :: _ => inner

/-- The spot of that directory. -/
def here (visit : Visit) : Spot := ⟨visit.base, (visit.trail.map (·.1)).reverse⟩

/-- Each directory of the trail is found in the one before. -/
inductive Valid (tree : FileTree) : Visit → Prop
  | base (base : Base) : Valid tree ⟨base, []⟩
  | down {visit : Visit} {name : String} {inner : Folder} (outer : Valid tree visit)
      (found : (visit.folder tree).find? name = some (.directory inner)) :
      Valid tree (visit.down name inner)

theorem here_base : visit.here.base = visit.base := rfl

theorem here_down (inner : Folder) :
    (visit.down name inner).here = ⟨visit.base, visit.here.names ++ [name]⟩ := by
  simp [here, down]

theorem spot_eq : visit.spot name = ⟨visit.base, visit.here.names ++ [name]⟩ := by
  simp [here, spot]

theorem here_up : visit.up.here = visit.here.up := by
  obtain ⟨base, _ | ⟨⟨name, inner⟩, trail⟩⟩ := visit
  · rfl
  · simp [here, up, Spot.up]

theorem here_start : (start parts).here = Spot.start parts := rfl

namespace Valid

theorem up (h : Valid tree visit) : Valid tree visit.up := by
  cases h with
  | base base => exact .base base.up
  | down outer _ => exact outer

/-- What is below the directory is found from it. -/
theorem get?_append (h : Valid tree visit) (names : List String) :
    tree.get? ⟨visit.base, visit.here.names ++ names⟩ = (visit.folder tree).get? names := by
  induction h generalizing names with
  | base base => rfl
  | @down visit name inner _ found ih =>
    have hbelow := ih (name :: names)
    rw [Folder.get?_of_directory found] at hbelow
    rw [here_down, List.append_assoc]
    exact hbelow

theorem get?_here (h : Valid tree visit) : tree.get? visit.here = some .directory := by
  have hnone := h.get?_append []
  rw [List.append_nil] at hnone
  exact hnone

theorem get?_spot (h : Valid tree visit) (name : String) :
    tree.get? (visit.spot name) = ((visit.folder tree).find? name).map Item.node := by
  rw [spot_eq, h.get?_append, Folder.get?]
  cases (visit.folder tree).find? name with
  | none => rfl
  | some item => cases item <;> rfl

end Valid
end Visit

open Visit

theorem item?_eq_ok {visit : Visit} {name : String} {item : Option Item}
    (h : tree.item? visit name = .ok item) : item = (visit.folder tree).find? name := by
  unfold item? at h
  split at h
  · cases h
  · unfold Visit.folder
    split at h <;> cases h <;> simp [*]

/-- One step keeps a visit valid, and leads where the part of the path leads. -/
theorem enter_eq_ok {visit next : Visit} {part : String} (hvisit : visit.Valid tree)
    (h : tree.enter visit part = .ok next) :
    next.Valid tree ∧ next.here = visit.here.enter part := by
  unfold enter at h
  unfold Spot.enter
  split at h
  · next hstay =>
    cases h
    exact ⟨hvisit, (if_pos hstay).symm⟩
  · next hstay =>
    rw [if_neg hstay]
    split at h
    · next hup =>
      cases h
      exact ⟨hvisit.up, by rw [if_pos hup, here_up]⟩
    · next hup =>
      obtain ⟨item, hitem, h⟩ := bind_eq_ok_iff.mp h
      rw [if_neg hup]
      split at h
      · cases h
      · next inner =>
        cases h
        exact ⟨hvisit.down (item?_eq_ok hitem).symm, here_down inner⟩
      · cases h

/-- A whole walk, with all the spots on its way. -/
theorem foldlM_enter_eq_ok {visit last : Visit} (hvisit : visit.Valid tree)
    (h : parts.foldlM tree.enter visit = .ok last) :
    last.Valid tree ∧ last.here = parts.foldl Spot.enter visit.here ∧
      ∀ front, front <+: parts →
        tree.get? (front.foldl Spot.enter visit.here) = some .directory := by
  induction parts generalizing visit with
  | nil =>
    cases h
    refine ⟨hvisit, rfl, fun front hfront => ?_⟩
    rw [List.prefix_nil.mp hfront]
    exact hvisit.get?_here
  | cons part parts ih =>
    rw [List.foldlM_cons] at h
    obtain ⟨next, hnext, h⟩ := bind_eq_ok_iff.mp h
    obtain ⟨hvalid, hhere⟩ := enter_eq_ok hvisit hnext
    obtain ⟨hlast, hend, hway⟩ := ih hvalid h
    rw [hhere] at hend hway
    refine ⟨hlast, hend, fun front hfront => ?_⟩
    cases front with
    | nil => exact hvisit.get?_here
    | cons first front =>
      obtain ⟨rfl, hbegin⟩ := List.cons_prefix_cons.mp hfront
      exact hway front hbegin

/-- Parts of a path whose last one is a name in a directory of the tree. -/
structure Reaches (tree : FileTree) (parts : List String) (outer : Visit) (last : String) :
    Prop where
  valid : outer.Valid tree
  spot_eq : outer.spot last = Spot.ofParts parts
  onWay : ∀ spot, Spot.OnWay parts spot → tree.get? spot = some .directory

theorem reaches_of_place {outer : Visit} {last : String}
    (h : tree.place parts = .ok (.name outer last)) : Reaches tree parts outer last := by
  unfold place at h
  cases hlast : parts.getLast? with
  | none =>
    rw [hlast] at h
    cases h
  | some final =>
    rw [hlast] at h
    obtain ⟨visit, hwalk, hplace⟩ := map_eq_ok_iff.mp h
    have hstart : (Visit.start parts).Valid tree := .base _
    obtain ⟨hvalid, hhere, hway⟩ := foldlM_enter_eq_ok hstart hwalk
    rw [here_start] at hhere hway
    split at hplace
    · next hname =>
      cases hplace
      refine ⟨hvalid, ?_, ?_⟩
      · calc outer.spot last = outer.here.enter last := by
              rw [Visit.spot_eq, Spot.enter_of_isName hname, here_base]
          _ = (parts.dropLast ++ [last]).foldl Spot.enter (Spot.start parts) := by
              rw [List.foldl_append, hhere, List.foldl_cons, List.foldl_nil]
          _ = Spot.ofParts parts := by rw [List.dropLast_append_getLast? last hlast, Spot.ofParts]
      · rintro spot ⟨front, hfront, rfl⟩
        exact hway front hfront
    · cases hplace

theorem checkedParts_eq_ok (h : checkedParts path = .ok parts) : parts = Path.parts path := by
  unfold checkedParts at h
  split at h
  · cases h
  · exact (Except.ok.inj h).symm

/-- A file that is looked at is at the spot of its path. -/
theorem get?_of_look {bytes : ByteArray} (h : tree.look path = .file bytes) :
    tree.get? (Spot.ofPath path) = some (.file bytes) := by
  unfold look at h
  split at h
  · cases h
  · cases hfound : tree.found path with
    | error fault =>
      rw [hfound] at h
      cases h
    | ok found =>
      rw [hfound] at h
      obtain rfl : found = .file bytes := h
      obtain ⟨all, hall, hfound⟩ := bind_eq_ok_iff.mp hfound
      obtain ⟨place, hplace, hfound⟩ := bind_eq_ok_iff.mp hfound
      obtain rfl := checkedParts_eq_ok hall
      cases place with
      | directory => cases hfound
      | name outer last =>
        have hreaches := reaches_of_place hplace
        obtain ⟨item, hitem, hfound⟩ := bind_eq_ok_iff.mp hfound
        have hget := hreaches.valid.get?_spot last
        rw [hreaches.spot_eq, ← item?_eq_ok hitem] at hget
        rw [Spot.ofPath, hget]
        split at hfound
        · cases hfound
        · cases hfound
        · cases hfound
          rfl

/-- What is put where a path ends changes nothing else. -/
theorem Reaches.get?_put {outer : Visit} {last : String} (h : Reaches tree parts outer last)
    (hfree : tree.get? (Spot.ofParts parts) ≠ some .directory) (node : Node) (spot : Spot) :
    (tree.put (outer.spot last) node).get? spot =
      if spot = Spot.ofParts parts then some node else tree.get? spot := by
  have hfront : tree.get? ⟨outer.base, outer.here.names⟩ = some .directory := h.valid.get?_here
  rw [← h.spot_eq, Visit.spot_eq] at hfree ⊢
  exact FileTree.get?_put tree node hfront hfree spot

/-- A directory that is made stands where nothing stood. -/
theorem makeDirectory_eq_ok (h : tree.makeDirectory path = .ok after) :
    tree.get? (Spot.ofPath path) = none ∧
      ∀ spot, after.get? spot =
        if spot = Spot.ofPath path then some .directory else tree.get? spot := by
  obtain ⟨all, hall, h⟩ := bind_eq_ok_iff.mp h
  obtain ⟨place, hplace, h⟩ := bind_eq_ok_iff.mp h
  obtain rfl := checkedParts_eq_ok hall
  cases place with
  | directory => cases h
  | name outer last =>
    have hreaches := reaches_of_place hplace
    obtain ⟨item, hitem, h⟩ := bind_eq_ok_iff.mp h
    cases item with
    | some item => cases h
    | none =>
      cases h
      have hnone : tree.get? (Spot.ofPath path) = none := by
        rw [Spot.ofPath, ← hreaches.spot_eq, hreaches.valid.get?_spot, ← item?_eq_ok hitem]
        rfl
      refine ⟨hnone, hreaches.get?_put ?_ .directory⟩
      rw [← Spot.ofPath, hnone]
      exact Option.some_ne_none _ |>.symm

/-- A file that is written stands in a directory, and where no directory stood. -/
structure Written (before after : FileTree) (path : String) (bytes : ByteArray) : Prop where
  get?_eq : ∀ spot, after.get? spot =
    if spot = Spot.ofPath path then some (.file bytes) else before.get? spot
  free : before.get? (Spot.ofPath path) ≠ some .directory
  outer : ∀ spot, Spot.LeadsThrough path spot → before.get? spot = some .directory

theorem eq_of_length_dropEmpty {all : List String}
    (h : ¬ (all.reverse.dropWhile (· == "")).reverse.length < all.length) :
    (all.reverse.dropWhile (· == "")).reverse = all := by
  have hprefix : (all.reverse.dropWhile (· == "")).reverse <+: all.reverse.reverse :=
    List.reverse_prefix.mpr (List.dropWhile_suffix _)
  rw [List.reverse_reverse] at hprefix
  exact hprefix.eq_of_length (Nat.le_antisymm hprefix.length_le (Nat.le_of_not_lt h))

theorem written_of_write {bytes : ByteArray} (h : tree.write path bytes = .ok after) :
    Written tree after path bytes := by
  obtain ⟨all, hall, h⟩ := bind_eq_ok_iff.mp h
  obtain rfl := checkedParts_eq_ok hall
  obtain ⟨place, hplace, h⟩ := bind_eq_ok_iff.mp h
  cases place with
  | directory => cases h
  | name outer last =>
    dsimp only at h
    split at h
    · cases h
    · next hcounted =>
      rw [eq_of_length_dropEmpty hcounted] at hplace
      have hreaches := reaches_of_place hplace
      obtain ⟨item, hitem, h⟩ := bind_eq_ok_iff.mp h
      have hget : tree.get? (Spot.ofPath path) = item.map Item.node := by
        rw [Spot.ofPath, ← hreaches.spot_eq, hreaches.valid.get?_spot, item?_eq_ok hitem]
      split at h
      · cases h
      · next hdirectory =>
        cases h
        have hfree : tree.get? (Spot.ofPath path) ≠ some .directory := by
          rw [hget]
          rcases item with _ | ⟨bytes⟩ | ⟨inner⟩
          · exact Option.some_ne_none _ |>.symm
          · exact fun h => Node.noConfusion (Option.some.inj h)
          · exact absurd rfl (hdirectory inner)
        exact ⟨hreaches.get?_put hfree (.file bytes), hfree, hreaches.onWay⟩

end FileTree
end DocBlocks
