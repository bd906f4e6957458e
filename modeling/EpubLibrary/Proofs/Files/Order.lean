import EpubLibrary.Proofs.Files.Steps

namespace EpubLibrary.FileTree

open Walk

/-- The nodes of two trees are the same, in whatever orders they are listed. -/
structure Reordered (u t : FileTree) : Prop where
  nodes : u.nodes.Perm t.nodes
  maxLinks : u.maxLinks = t.maxLinks
  maxSize : u.maxSize = t.maxSize

variable {t u : FileTree} {cwd d : Place} {p : Path} {w : Walk}

theorem follow_congr (same : u.node? = t.node?) (last : Bool) (links : Nat) (place : Place)
    (parts : List Component) :
    u.follow last links place parts = t.follow last links place parts := by
  fun_induction FileTree.follow t last links place parts with
  | case1 => rw [FileTree.follow]
  | case8 place part rest dir step down short target link goes links start ih =>
    rw [FileTree.follow, same, dir, link]
    simp only [step, down, short, goes, if_false]
    exact ih
  | _ =>
    rw [FileTree.follow, same]
    simp_all

theorem perm_names (same : u.nodes.Perm t.nodes) (d : Place) :
    (u.names d).Perm (t.names d) := by
  rw [names_eq, names_eq]
  exact (same.map (·.1)).filterMap _

/-- Names in order are in the same order however they were listed. -/
theorem mergeSort_eq_of_perm {a b : List Component} (same : a.Perm b) :
    (a.mergeSort fun x y => String.ofList x ≤ String.ofList y) =
      b.mergeSort fun x y => String.ofList x ≤ String.ofList y := by
  have total : ∀ x y : Component,
      (decide (String.ofList x ≤ String.ofList y) || decide (String.ofList y ≤ String.ofList x)) =
        true := by
    intro x y
    simpa using String.le_total _ _
  have trans : ∀ x y z : Component, decide (String.ofList x ≤ String.ofList y) = true →
      decide (String.ofList y ≤ String.ofList z) = true →
      decide (String.ofList x ≤ String.ofList z) = true := by
    intro x y z xy yz
    simp only [decide_eq_true_eq] at xy yz ⊢
    exact String.le_trans xy yz
  refine List.Perm.eq_of_pairwise ?_ (List.pairwise_mergeSort trans total a)
    (List.pairwise_mergeSort trans total b) ?_
  · intro x y _ _ xy yx
    simp only [decide_eq_true_eq] at xy yx
    exact String.ofList_injective (String.le_antisymm xy yx)
  · exact (List.mergeSort_perm a _).trans (same.trans (List.mergeSort_perm b _).symm)

namespace Reordered

variable (same : Reordered u t) (sound : t.Sound)

include same sound

theorem node?_eq : u.node? = t.node? := by
  funext place
  have distinct : (u.nodes.map (·.1)).Nodup := ((same.nodes.map _).nodup_iff).2 sound.distinct
  rw [FileTree.node?, FileTree.node?, lookup_perm same.nodes distinct]

theorem followPath_eq (last : Bool) (p : Path) :
    u.followPath last cwd p = t.followPath last cwd p := by
  rw [FileTree.followPath, FileTree.followPath, same.maxLinks, same.maxSize,
    follow_congr (same.node?_eq sound)]

theorem find_eq (p : Path) : u.find cwd p = t.find cwd p := by
  rw [FileTree.find, FileTree.find, FileTree.place, same.followPath_eq sound,
    same.node?_eq sound, FileTree.place]

theorem isLink_eq (p : Path) : u.isLink cwd p = t.isLink cwd p := by
  rw [FileTree.isLink, FileTree.isLink, FileTree.ownPlace, FileTree.ownPlace,
    same.followPath_eq sound, same.node?_eq sound]

theorem listable_eq (p : Path) : listable u cwd p = listable t cwd p := by
  have dirs : ∀ place, place ∈ u.directories ↔ place ∈ t.directories := by
    intro place
    simp only [FileTree.directories, List.mem_cons, List.mem_map, List.mem_filter,
      same.nodes.mem_iff]
  rw [listable, listable, FileTree.place, FileTree.place, same.followPath_eq sound,
    same.node?_eq sound]
  simp only [dirs]

theorem tasksOf_eq (p : Path) : tasksOf u w p d = tasksOf t w p d := by
  have isDir : leadsIn u w.cwd p d = leadsIn t w.cwd p d := by
    funext name
    rw [leadsIn, leadsIn, same.node?_eq sound, same.find_eq sound]
  simp only [tasksOf, isDir, mergeSort_eq_of_perm (perm_names same.nodes d)]

/-- A task does the same in both trees, whatever order the names have. -/
theorem perform_eq (w : Walk) (task : WalkTask) : perform u w task = perform t w task := by
  have entered : ∀ p, enter u w p = enter t w p := by
    intro p
    simp only [enter, same.listable_eq sound, same.tasksOf_eq sound]
  cases task with
  | directory p => exact entered p
  | subdirectory p => simp only [perform, entered, same.isLink_eq sound]
  | file p =>
    have isFile : u.isFile w.cwd p = t.isFile w.cwd p := by
      rw [FileTree.isFile, FileTree.isFile, FileTree.find?, FileTree.find?, same.find_eq sound]
    rw [perform, perform, isFile]

/-- Walks do not depend on the order in which nodes are listed. -/
theorem finish_eq (w : Walk) : w.finish u = w.finish t := by
  have step_eq : ∀ w, step u w = step t w := by
    intro w
    unfold step
    split
    · rfl
    · rw [same.perform_eq sound]
  induction w using (wellFounded_step t).induction with
  | h w ih =>
    cases ends : step t w with
    | none => rw [finish_of_end ends, finish_of_end ((step_eq w).trans ends)]
    | some next =>
      obtain ⟨event, v⟩ := next
      rw [finish_of_step ends, finish_of_step ((step_eq w).trans ends), ih v ⟨event, ends⟩]

end Reordered

end EpubLibrary.FileTree
