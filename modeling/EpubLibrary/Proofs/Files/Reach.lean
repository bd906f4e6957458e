import EpubLibrary.Proofs.Files.Follow
import Mathlib.Data.Set.Finite.Lattice
import Mathlib.Data.Set.Finite.List
import Mathlib.Order.Bounds.Basic

namespace EpubLibrary.FileTree

/-- A name in a directory opens a directory: the one of that name or, if links are followed, the one
that the link of that name leads to. -/
inductive Opens (look : Place → Option FileNode) (followLinks : Bool) (d : Place)
    (name : Component) : Place → Prop where
  | directory (own : look (d ++ [name]) = some .directory) :
      Opens look followLinks d name (d ++ [name])
  | link {target : List Char} {sub : Place} (followed : followLinks = true)
      (own : look (d ++ [name]) = some (.link target)) (leads : LeadsTo look d name sub)
      (dir : look sub = some .directory) : Opens look followLinks d name sub

/-- The directories that are reached from a root. -/
inductive Reached (look : Place → Option FileNode) (cwd : Place) (root : Path)
    (followLinks : Bool) : Place → Prop where
  | root {n : Nat} {d : Place} (leads : Leads look n (origin cwd root) root.parts d)
      (dir : look d = some .directory) : Reached look cwd root followLinks d
  | sub {d sub : Place} {name : Component} (above : Reached look cwd root followLinks d)
      (opens : Opens look followLinks d name sub) : Reached look cwd root followLinks sub

variable {t : FileTree} {look : Place → Option FileNode} {cwd d sub : Place} {root p : Path}
  {followLinks : Bool} {name : Component}

theorem Opens.directory_there (h : Opens look followLinks d name sub) :
    look sub = some .directory := by
  cases h with
  | directory own => exact own
  | link _ _ _ dir => exact dir

theorem Reached.directory_there (h : Reached look cwd root followLinks d) :
    look d = some .directory := by
  cases h with
  | root _ dir => exact dir
  | sub _ opens => exact opens.directory_there

theorem Opens.entry (h : Opens look followLinks d name sub) :
    ∃ node, look (d ++ [name]) = some node := by
  cases h with
  | directory own => exact ⟨_, own⟩
  | link _ own _ _ => exact ⟨_, own⟩

theorem Opens.leadsTo (h : Opens look followLinks d name sub) (dir : look d = some .directory)
    (isName : Path.IsName name) : LeadsTo look d name sub := by
  cases h with
  | directory own => exact (leadsTo_own_iff dir isName (by simp [own])).2 rfl
  | link _ _ leads _ => exact leads

/-- A name that leads to a directory opens it, unless it is that of a link not to be followed. -/
theorem opens_of_leadsTo (leads : LeadsTo look d name sub) (isName : Path.IsName name)
    (dir : look sub = some .directory)
    (followed : followLinks = true ∨ ∀ target, look (d ++ [name]) ≠ some (.link target)) :
    Opens look followLinks d name sub := by
  obtain ⟨n, leads⟩ := leads
  cases leads with
  | stay _ blank => exact absurd blank isName.not_blank
  | up => exact absurd rfl isName.2.1
  | enter _ _ _ next =>
    cases next
    exact .directory dir
  | follow atPlace _ link next =>
    rcases followed with followed | noLink
    · exact .link followed link ⟨_, .follow atPlace isName link next⟩ dir
    · exact absurd link (noLink _)

/-! ## What is sought -/

/-- A name in a directory is one to be found: it has a supported suffix and leads to a regular
file. -/
structure Sought (t : FileTree) (d : Place) (name : Component) : Prop where
  listed : name ∈ t.names d
  supported : (Format.ofPath? ⟨0, [name]⟩).isSome = true
  regular : ∃ q, LeadsTo t.node? d name q ∧ (t.node? q).any FileNode.isRegular = true

theorem Sought.not_directory (h : Sought t d name) :
    ¬∃ sub, LeadsTo t.node? d name sub ∧ t.node? sub = some .directory := by
  rintro ⟨sub, ⟨n, leads⟩, dir⟩
  obtain ⟨q, ⟨m, other⟩, regular⟩ := h.regular
  obtain ⟨_, rfl⟩ := leads.unique other
  rw [dir] at regular
  cases regular

/-! ## Paths of a walk -/

/-- A path is that of a root and no more than as many names below it. -/
def Rooted (t : FileTree) (root : Path) (steps : Nat) (p : Path) : Prop :=
  ∃ names, p = ⟨root.slashes, root.parts ++ names⟩ ∧ names.length ≤ steps ∧
    ∀ name ∈ names, ∃ d, name ∈ t.names d

/-- No path that a walk can take is too long or meets more links than the tree allows. -/
def WithinLimit (t : FileTree) (cwd : Place) (root : Path) : Prop :=
  ∀ p, Rooted t root t.directories.length p → p.size ≤ t.maxSize ∧ ∀ n q,
    Leads t.node? n (origin cwd p) p.parts q → n ≤ t.maxLinks

theorem rooted_root (t : FileTree) (root : Path) (steps : Nat) : Rooted t root steps root :=
  ⟨[], by rw [List.append_nil], Nat.zero_le steps, by simp⟩

theorem Rooted.mono {n m : Nat} (h : Rooted t root n p) (le : n ≤ m) : Rooted t root m p := by
  obtain ⟨names, whole, few, listed⟩ := h
  exact ⟨names, whole, few.trans le, listed⟩

theorem Rooted.below {n : Nat} (h : Rooted t root n p) (mem : name ∈ t.names d) :
    Rooted t root (n + 1) (Walk.below p name) := by
  obtain ⟨names, rfl, few, listed⟩ := h
  refine ⟨names ++ [name], ?_, ?_, ?_⟩
  · simp [Walk.below]
  · simpa using few
  · intro part mem_part
    rcases List.mem_append.1 mem_part with old | new
    · exact listed part old
    · rw [List.mem_singleton] at new
      exact ⟨d, new ▸ mem⟩

theorem finite_names (t : FileTree) : {name | ∃ d, name ∈ t.names d}.Finite := by
  refine ((t.nodes.map (·.1)).filterMap List.getLast?).finite_toSet.subset ?_
  rintro name ⟨d, mem⟩
  rw [names_eq, List.mem_filterMap] at mem
  obtain ⟨place, stands, isLast⟩ := mem
  rw [nameIn_eq_some_iff] at isLast
  exact List.mem_filterMap.2 ⟨place, stands, by simp [isLast]⟩

/-- Only so many paths lie a given number of names below a root. -/
theorem finite_rooted (t : FileTree) (root : Path) (steps : Nat) :
    {p | Rooted t root steps p}.Finite := by
  have := (finite_names t).to_subtype
  have lists := List.finite_length_le {name | ∃ d, name ∈ t.names d} steps
  refine (lists.image fun names => ⟨root.slashes, root.parts ++ names.map (·.1)⟩).subset ?_
  rintro p ⟨names, rfl, few, listed⟩
  refine ⟨names.attach.map fun name => ⟨name.1, listed name.1 name.2⟩, by simpa using few, ?_⟩
  simp [Function.comp_def]

/-- There are finitely many paths that a walk can take, so some size and some number of links are
enough for all of them. -/
theorem exists_bound (t : FileTree) (cwd : Place) (root : Path) (steps : Nat) :
    ∃ bound, ∀ p, Rooted t root steps p → p.size ≤ bound ∧ ∀ n q,
      Leads t.node? n (origin cwd p) p.parts q → n ≤ bound := by
  have each : ∀ p ∈ {p | Rooted t root steps p},
      BddAbove {n | ∃ q, Leads t.node? n (origin cwd p) p.parts q} := by
    intro p _
    by_cases leads : ∃ n q, Leads t.node? n (origin cwd p) p.parts q
    · obtain ⟨n, q, leads⟩ := leads
      exact ⟨n, fun m ⟨r, other⟩ => (other.unique leads).1.le⟩
    · exact ⟨0, fun m ⟨r, other⟩ => absurd ⟨m, r, other⟩ leads⟩
  obtain ⟨links, all⟩ := ((finite_rooted t root steps).bddAbove_biUnion).2 each
  obtain ⟨size, fits⟩ := ((finite_rooted t root steps).image Path.size).bddAbove
  refine ⟨max links size, fun p rooted => ⟨?_, fun n q leads => ?_⟩⟩
  · exact (fits (Set.mem_image_of_mem Path.size rooted)).trans (le_max_right _ _)
  · refine le_trans (all ?_) (le_max_left _ _)
    exact Set.mem_biUnion (show p ∈ {p | Rooted t root steps p} from rooted) ⟨q, leads⟩

end EpubLibrary.FileTree
