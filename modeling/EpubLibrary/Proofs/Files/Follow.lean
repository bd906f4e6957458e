import EpubLibrary.Files.Walk
import EpubLibrary.Proofs.Lookup
import EpubLibrary.Proofs.Path
import EpubLibrary.Proofs.Results

namespace EpubLibrary

/-- A component that leads down, and not nowhere or up. It is short enough to name a node. -/
def Path.IsName (part : Component) : Prop :=
  isStep part = true ∧ part ≠ up ∧ isLong part = false

instance (part : Component) : Decidable (Path.IsName part) :=
  inferInstanceAs (Decidable (_ ∧ _))

theorem Path.isStep_up : isStep up = true := rfl

theorem Path.IsName.not_blank {part : Component} (h : IsName part) : isStep part ≠ false := by
  rw [h.1]
  decide

namespace FileTree

/-- Components lead from a place to another, through as many links. `look` tells what stands
where. -/
inductive Leads (look : Place → Option FileNode) : Nat → Place → List Component → Place → Prop where
  | here (place : Place) : Leads look 0 place [] place
  /-- a component that says nothing -/
  | stay {n : Nat} {place : Place} {part : Component} {rest : List Component} {q : Place}
      (dir : look place = some .directory) (blank : Path.isStep part = false)
      (next : Leads look n place rest q) : Leads look n place (part :: rest) q
  | up {n : Nat} {place : Place} {rest : List Component} {q : Place}
      (dir : look place = some .directory) (next : Leads look n place.dropLast rest q) :
      Leads look n place (Path.up :: rest) q
  | enter {n : Nat} {place : Place} {part : Component} {rest : List Component} {q : Place}
      (dir : look place = some .directory) (name : Path.IsName part)
      (noLink : ∀ target, look (place ++ [part]) ≠ some (.link target))
      (next : Leads look n (place ++ [part]) rest q) : Leads look n place (part :: rest) q
  /-- a link: its target comes before the rest -/
  | follow {n : Nat} {place : Place} {part : Component} {rest : List Component} {q : Place}
      {target : List Char} (dir : look place = some .directory) (name : Path.IsName part)
      (link : look (place ++ [part]) = some (.link target))
      (next : Leads look n (if target.head? = some '/' then [] else place)
        (Path.split target ++ rest) q) : Leads look (n + 1) place (part :: rest) q

variable {t : FileTree} {look : Place → Option FileNode} {n m k : Nat} {place q r : Place}
  {parts more : List Component} {name : Component}

/-! ## Ways -/

theorem Leads.append (h : Leads look n place parts q) (h' : Leads look m q more r) :
    Leads look (n + m) place (parts ++ more) r := by
  induction h with
  | here place =>
    rw [Nat.zero_add]
    exact h'
  | stay dir blank _ ih => exact .stay dir blank (ih h')
  | up dir _ ih => exact .up dir (ih h')
  | enter dir name noLink _ ih => exact .enter dir name noLink (ih h')
  | follow dir name link _ ih =>
    rw [Nat.add_right_comm]
    have next := ih h'
    rw [List.append_assoc] at next
    exact .follow dir name link next

/-- There is one way only, so behind the first components the whole way goes on as the rest does. -/
theorem Leads.rest (h : Leads look n place parts q) (whole : Leads look k place (parts ++ more) r) :
    ∃ m, k = n + m ∧ Leads look m q more r := by
  -- At each component the conditions of the ways exclude each other.
  induction h generalizing k with
  | here place => exact ⟨k, (Nat.zero_add k).symm, whole⟩
  | stay dir blank _ ih =>
    cases whole with
    | stay _ _ whole => exact ih whole
    | up => exact absurd blank (by decide)
    | enter _ name => exact absurd blank name.not_blank
    | follow _ name => exact absurd blank name.not_blank
  | up dir _ ih =>
    cases whole with
    | stay _ blank => exact absurd blank (by decide)
    | up _ whole => exact ih whole
    | enter _ name => exact absurd rfl name.2.1
    | follow _ name => exact absurd rfl name.2.1
  | enter dir name noLink _ ih =>
    cases whole with
    | stay _ blank => exact absurd blank name.not_blank
    | up => exact absurd rfl name.2.1
    | enter _ _ _ whole => exact ih whole
    | follow _ _ link => exact absurd link (noLink _)
  | follow dir name link _ ih =>
    cases whole with
    | stay _ blank => exact absurd blank name.not_blank
    | up => exact absurd rfl name.2.1
    | enter _ _ noLink => exact absurd link (noLink _)
    | follow _ _ link' whole =>
      obtain rfl := FileNode.link.inj (Option.some.inj (link.symm.trans link'))
      obtain ⟨m, links, goes⟩ := ih (by rw [List.append_assoc]; exact whole)
      exact ⟨m, by omega, goes⟩

/-- Components lead to one place only. -/
theorem Leads.unique (h : Leads look n place parts q) (h' : Leads look m place parts r) :
    n = m ∧ q = r := by
  rw [← List.append_nil parts] at h'
  obtain ⟨k, links, last⟩ := h.rest h'
  cases last
  exact ⟨links.symm, rfl⟩

/-- A way is followed as far as it leads, unless its last link is not to be followed. -/
theorem Leads.follow_append (h : Leads t.node? n place parts q) (more : List Component)
    {last : Bool} (goes : last = true ∨ more ≠ []) (links : Nat) :
    t.follow last (n + links) place (parts ++ more) = t.follow last links q more := by
  induction h with
  | here place => rw [Nat.zero_add, List.nil_append]
  | stay dir blank _ ih =>
    rw [List.cons_append, FileTree.follow, dir]
    simp [blank, ih]
  | up dir _ ih =>
    rw [List.cons_append, FileTree.follow, dir]
    simp [Path.isStep_up, ih]
  | enter dir name noLink _ ih =>
    rw [List.cons_append, FileTree.follow, dir]
    simp [name.1, name.2.1, name.2.2, ih]
  | @follow n place part rest q target dir name link _ ih =>
    have followed : ¬(rest ++ more = [] ∧ last = false) := by
      rintro ⟨nothing, unfollowed⟩
      rcases goes with followed | some
      · exact Bool.noConfusion (unfollowed.symm.trans followed)
      · exact some (List.append_eq_nil_iff.1 nothing).2
    rw [List.cons_append, FileTree.follow, dir, link, Nat.add_right_comm]
    rw [List.append_assoc] at ih
    simp only [name.1, name.2.1, name.2.2, Bool.not_true, Bool.false_eq_true, if_false,
      Bool.and_eq_true, decide_eq_true_eq, Bool.not_eq_true', followed, ih]

theorem leads_of_follow {links : Nat} (h : t.follow true links place parts = .ok q) :
    ∃ n ≤ links, Leads t.node? n place parts q := by
  fun_induction FileTree.follow t true links place parts with
  | case1 links place =>
    cases h
    exact ⟨0, Nat.zero_le links, .here _⟩
  | case3 links place part rest dir blank ih =>
    obtain ⟨n, few, leads⟩ := ih h
    exact ⟨n, few, .stay dir (by simpa using blank) leads⟩
  | case4 links place rest dir _ ih =>
    obtain ⟨n, few, leads⟩ := ih h
    exact ⟨n, few, .up dir leads⟩
  | case6 links place part rest dir step down short target link unfollowed =>
    simp at unfollowed
  | case8 place part rest dir step down short target link _ links start ih =>
    obtain ⟨n, few, leads⟩ := ih h
    have isName : Path.IsName part := ⟨by simpa using step, down, by simpa using short⟩
    exact ⟨n + 1, Nat.succ_le_succ few, .follow dir isName link leads⟩
  | case9 links place part rest dir step down short noLink ih =>
    obtain ⟨n, few, leads⟩ := ih h
    exact ⟨n, few, .enter dir ⟨by simpa using step, down, by simpa using short⟩ noLink leads⟩
  | case2 => cases h
  | case5 => cases h
  | case7 => cases h
  | case10 => cases h

def origin (cwd : Place) (p : Path) : Place := if p.slashes = 0 then cwd else []

variable {cwd d : Place} {p : Path} {node : FileNode}

/-- A path that is not too long as a whole is followed component by component. -/
theorem followPath_of_size_le (fits : p.size ≤ t.maxSize) (last : Bool) :
    t.followPath last cwd p = t.follow last t.maxLinks (origin cwd p) p.parts :=
  if_neg (Nat.not_lt.2 fits)

/-- A path has a place exactly if it is not too long and leads there through no more links than the
tree allows. -/
theorem place_eq_ok_iff : t.place cwd p = .ok q ↔
    p.size ≤ t.maxSize ∧ ∃ n ≤ t.maxLinks, Leads t.node? n (origin cwd p) p.parts q := by
  constructor
  · intro found
    unfold FileTree.place FileTree.followPath at found
    split at found
    · cases found
    · exact ⟨Nat.not_lt.1 ‹_›, leads_of_follow found⟩
  · rintro ⟨fits, n, few, leads⟩
    have followed := leads.follow_append [] (.inl rfl : true = true ∨ _) (t.maxLinks - n)
    rw [List.append_nil, Nat.add_sub_cancel' few] at followed
    rw [FileTree.place, followPath_of_size_le fits, followed, FileTree.follow]

/-- Behind the way to a directory, a path goes on as its last name does from there. -/
theorem Leads.followPath_below (h : Leads t.node? n (origin cwd p) p.parts d)
    (few : n ≤ t.maxLinks) (fits : (Walk.below p name).size ≤ t.maxSize) (last : Bool) :
    t.followPath last cwd (Walk.below p name) = t.follow last (t.maxLinks - n) d [name] := by
  have followed := h.follow_append [name] (.inr (by simp) : last = true ∨ _) (t.maxLinks - n)
  rw [Nat.add_sub_cancel' few] at followed
  rw [followPath_of_size_le fits]
  exact followed

theorem Leads.ownPlace (h : Leads t.node? n (origin cwd p) p.parts d) (few : n ≤ t.maxLinks)
    (fits : (Walk.below p name).size ≤ t.maxSize) (dir : t.node? d = some .directory)
    (isName : Path.IsName name) : t.ownPlace cwd (Walk.below p name) = .ok (d ++ [name]) := by
  rw [FileTree.ownPlace, h.followPath_below few fits, FileTree.follow, dir]
  simp only [isName.1, isName.2.1, isName.2.2, Bool.not_true, Bool.false_eq_true, if_false]
  split
  · simp
  · rw [FileTree.follow]

/-! ## What stands where -/

def Named (place : Place) : Prop := ∀ part ∈ place, Path.IsName part

instance (place : Place) : Decidable (Named place) :=
  inferInstanceAs (Decidable (∀ part ∈ place, _))

/-- Nodes are told apart by their places, which have names. -/
structure Sound (t : FileTree) : Prop where
  distinct : (t.nodes.map (·.1)).Nodup
  named : ∀ place ∈ t.nodes.map (·.1), Named place

theorem node?_eq_some_iff (sound : t.Sound) (below : place ≠ []) :
    t.node? place = some node ↔ (place, node) ∈ t.nodes := by
  rw [FileTree.node?, if_neg below, lookup_eq_some_iff_mem sound.distinct]

theorem mem_directories_iff (sound : t.Sound) :
    place ∈ t.directories ↔ t.node? place = some .directory := by
  by_cases root : place = []
  · simp [root, FileTree.directories, FileTree.node?]
  · rw [node?_eq_some_iff sound root, FileTree.directories, List.mem_cons]
    simp [root]

def nameIn (d place : Place) : Option Component :=
  match place.getLast? with
  | some name => if place.dropLast = d then some name else none
  | none => none

theorem nameIn_eq_some_iff : nameIn d place = some name ↔ place = d ++ [name] := by
  unfold nameIn
  rcases List.eq_nil_or_concat place with rfl | ⟨front, last, rfl⟩
  · simp
  · have same : front ++ [last] = d ++ [name] ↔ front = d ∧ last = name :=
      List.append_singleton_inj
    simp [same]

theorem names_eq (t : FileTree) (d : Place) :
    t.names d = (t.nodes.map (·.1)).filterMap (nameIn d) := by
  rw [List.filterMap_map]
  rfl

theorem mem_names_iff (sound : t.Sound) :
    name ∈ t.names d ↔ ∃ node, t.node? (d ++ [name]) = some node := by
  simp only [names_eq, List.mem_filterMap, nameIn_eq_some_iff, exists_eq_right,
    node?_eq_some_iff sound (List.concat_ne_nil name d), List.mem_map, Prod.exists,
    exists_and_right]

theorem nodup_names (sound : t.Sound) (d : Place) : (t.names d).Nodup := by
  rw [names_eq]
  refine sound.distinct.filterMap fun a b name ha hb => ?_
  rw [nameIn_eq_some_iff.1 ha, nameIn_eq_some_iff.1 hb]

theorem isName_of_mem_names (sound : t.Sound) (h : name ∈ t.names d) : Path.IsName name := by
  rw [names_eq, List.mem_filterMap] at h
  obtain ⟨place, stands, isLast⟩ := h
  refine sound.named place stands name ?_
  rw [nameIn_eq_some_iff.1 isLast]
  exact List.mem_append_right d (List.mem_singleton_self name)

/-! ## What paths tell -/

theorem find_eq_ok_iff :
    t.find cwd p = .ok node ↔ ∃ q, t.place cwd p = .ok q ∧ t.node? q = some node := by
  rw [FileTree.find, bind_ok_iff]
  refine exists_congr fun q => and_congr_right fun _ => ?_
  cases t.node? q <;> simp [throw, throwThe, MonadExceptOf.throw, pure, Except.pure]

theorem find?_eq_some_iff : t.find? cwd p = .ok (some node) ↔ t.find cwd p = .ok node := by
  unfold FileTree.find?
  cases t.find cwd p with
  | ok other => simp
  | error e => cases e <;> simp [FileError.isAbsence]

theorem isThere_of_find (there : t.find cwd p = .ok node) : t.isThere cwd p = .ok true := by
  rw [FileTree.isThere, find?_eq_some_iff.2 there]
  rfl

theorem isDirectory_iff : t.isDirectory cwd p = .ok true ↔ t.find cwd p = .ok .directory := by
  rw [FileTree.isDirectory, map_ok_iff, ← find?_eq_some_iff]
  simp

theorem isFile_iff : t.isFile cwd p = .ok true ↔
    ∃ q, t.place cwd p = .ok q ∧ (t.node? q).any FileNode.isRegular = true := by
  rw [FileTree.isFile, map_ok_iff]
  constructor
  · rintro ⟨found, there, regular⟩
    obtain ⟨node, rfl, _⟩ := (Option.any_eq_true _ _).1 regular
    obtain ⟨q, leads, at_q⟩ := find_eq_ok_iff.1 (find?_eq_some_iff.1 there)
    exact ⟨q, leads, by rw [at_q, regular]⟩
  · rintro ⟨q, leads, regular⟩
    obtain ⟨node, at_q, _⟩ := (Option.any_eq_true _ _).1 regular
    have there := find?_eq_some_iff.2 (find_eq_ok_iff.2 ⟨q, leads, at_q⟩)
    exact ⟨some node, there, by rw [← at_q, regular]⟩

/-- Following ends with an error of these. -/
theorem error_of_follow {last : Bool} {links : Nat} {e : FileError}
    (h : t.follow last links place parts = .error e) : e.isAbsence = true ∨ e = .nameTooLong := by
  fun_induction FileTree.follow t last links place parts with
  | case1 => cases h
  | case2 => cases h; exact .inl rfl
  | case3 _ _ _ _ _ _ ih => exact ih h
  | case4 _ _ _ _ _ ih => exact ih h
  | case5 => cases h; exact .inr rfl
  | case6 => cases h
  | case7 => cases h; exact .inl rfl
  | case8 _ _ _ _ _ _ _ _ _ _ _ _ ih => exact ih h
  | case9 _ _ _ _ _ _ _ _ _ ih => exact ih h
  | case10 => cases h; exact .inl rfl

/-- It can be told what stands at a path, unless a name on the way is too long. -/
theorem find?_eq_error_iff {e : FileError} : t.find? cwd p = .error e ↔
    e = .nameTooLong ∧ t.place cwd p = .error .nameTooLong := by
  rw [FileTree.find?, FileTree.find]
  cases there : t.place cwd p with
  | ok q =>
    cases stands : t.node? q with
    | none => simp [bind, Except.bind, stands, throw, throwThe, MonadExceptOf.throw,
        FileError.isAbsence]
    | some node => simp [bind, Except.bind, stands, pure, Except.pure]
  | error e' =>
    have kind : e'.isAbsence = true ∨ e' = .nameTooLong := by
      unfold FileTree.place FileTree.followPath at there
      split at there
      · cases there
        exact .inr rfl
      · exact error_of_follow there
    rcases kind with absent | rfl
    · have other : e' ≠ .nameTooLong := by
        rintro rfl
        cases absent
      simp [bind, Except.bind, absent, other]
    · simp [bind, Except.bind, FileError.isAbsence, eq_comm]

theorem isFile_eq_error_iff {e : FileError} : t.isFile cwd p = .error e ↔
    e = .nameTooLong ∧ t.place cwd p = .error .nameTooLong := by
  rw [FileTree.isFile, map_error_iff, find?_eq_error_iff]

theorem listable_eq_ok_iff (sound : t.Sound) : Walk.listable t cwd p = .ok q ↔
    t.place cwd p = .ok q ∧ t.node? q = some .directory := by
  rw [Walk.listable, bind_ok_iff]
  constructor
  · rintro ⟨place, there, listed⟩
    split at listed
    · cases listed
    · split at listed
      · rename_i isIn
        cases listed
        exact ⟨there, (mem_directories_iff sound).1 isIn⟩
      · cases listed
  · rintro ⟨there, dir⟩
    refine ⟨q, there, ?_⟩
    rw [dir]
    exact if_pos ((mem_directories_iff sound).2 dir)

/-- No link of the tree has a component that is too long. -/
def ShortLinks (t : FileTree) : Prop :=
  ∀ place target, t.node? place = some (.link target) →
    ∀ part ∈ Path.split target, Path.isLong part = false

/-- If no link has a long component, only the components of the path itself can be too long. -/
theorem ShortLinks.follow_ne {last : Bool} {links : Nat} (short : ShortLinks t)
    (parts_short : ∀ part ∈ parts, Path.isLong part = false) :
    t.follow last links place parts ≠ .error .nameTooLong := by
  fun_induction FileTree.follow t last links place parts with
  | case3 _ _ _ _ _ _ ih => exact ih fun part mem => parts_short part (List.mem_cons_of_mem _ mem)
  | case4 _ _ _ _ _ ih => exact ih fun part mem => parts_short part (List.mem_cons_of_mem _ mem)
  | case5 _ _ part _ _ _ _ long =>
    exact absurd long (by simp [parts_short part List.mem_cons_self])
  | case8 place part rest _ _ _ _ target link _ _ _ ih =>
    refine ih fun other mem => ?_
    rcases List.mem_append.1 mem with mem | mem
    · exact short _ target link other mem
    · exact parts_short other (List.mem_cons_of_mem _ mem)
  | case9 _ _ _ _ _ _ _ _ _ ih =>
    exact ih fun part mem => parts_short part (List.mem_cons_of_mem _ mem)
  | case1 => exact nofun
  | case2 => exact nofun
  | case6 => exact nofun
  | case7 => exact nofun
  | case10 => exact nofun

theorem isStep_of_isLong {part : Component} (long : Path.isLong part = true) :
    Path.isStep part = true ∧ part ≠ Path.up := by
  constructor
  · rw [Path.isStep, Bool.and_eq_true, decide_eq_true_eq, decide_eq_true_eq]
    constructor <;> (rintro rfl; exact absurd long (by decide))
  · rintro rfl
    exact absurd long (by decide)

theorem follow_of_isLong {part : Component} (dir : t.node? d = some .directory)
    (long : Path.isLong part = true) (last : Bool) (links : Nat) (rest : List Component) :
    t.follow last links d (part :: rest) = .error .nameTooLong := by
  obtain ⟨step, down⟩ := isStep_of_isLong long
  rw [FileTree.follow, dir]
  simp [step, down, long]

/-- A link to one name that is too long leads nowhere, and does not say that nothing is there. -/
theorem follow_long_link {target : List Char} {links : Nat} (dir : t.node? d = some .directory)
    (isName : Path.IsName name) (link : t.node? (d ++ [name]) = some (.link target))
    (plain : '/' ∉ target) (long : Path.isLong target = true) :
    t.follow true (links + 1) d [name] = .error .nameTooLong := by
  have relative : target.head? ≠ some '/' := fun slash => plain (List.mem_of_head? slash)
  have whole : Path.split target = [target] := by
    rw [Path.split_eq, List.splitOn_eq_singleton plain]
  rw [FileTree.follow, dir]
  simp only [isName.1, isName.2.1, isName.2.2, link, whole, relative, Bool.not_true,
    Bool.false_eq_true, if_false, Bool.and_false, List.append_nil]
  exact follow_of_isLong dir long _ _ _

/-- A name that no node can have. -/
def longName : Component := List.replicate 300 'n'

theorem isLong_longName : Path.isLong longName = true := by
  decide +kernel

theorem slash_not_mem_longName : '/' ∉ longName := by
  intro mem
  exact absurd (List.eq_of_mem_replicate mem) (by decide)

/-- A name in a directory leads to a place: its own, or where its link does. -/
def LeadsTo (look : Place → Option FileNode) (d : Place) (name : Component) (q : Place) : Prop :=
  ∃ n, Leads look n d [name] q

/-- A name that is not a link leads to its own place. -/
theorem leadsTo_own_iff (dir : look d = some .directory) (isName : Path.IsName name)
    (noLink : ∀ target, look (d ++ [name]) ≠ some (.link target)) :
    LeadsTo look d name q ↔ q = d ++ [name] := by
  constructor
  · rintro ⟨n, leads⟩
    cases leads with
    | stay _ blank => exact absurd blank isName.not_blank
    | up => exact absurd rfl isName.2.1
    | enter _ _ _ next =>
      cases next
      rfl
    | follow _ _ link => exact absurd link (noLink _)
  · rintro rfl
    exact ⟨0, .enter dir isName noLink (.here _)⟩

/-- A path is that of a name in a directory: it leads where the name does. -/
structure Entry (t : FileTree) (cwd : Place) (p : Path) (d : Place) (name : Component) : Prop where
  last : p.name = name
  isName : Path.IsName name
  own : t.ownPlace cwd p = .ok (d ++ [name])
  place_eq : ∃ links, t.place cwd p = t.follow true links d [name]
  place_iff : ∀ q, t.place cwd p = .ok q ↔ LeadsTo t.node? d name q

/-- The path of a name below a path that leads to its directory is that of the name, if it is not
too long and there are not too many links on it. -/
theorem entry_below (sound : t.Sound) (leads : Leads t.node? n (origin cwd p) p.parts d)
    (dir : t.node? d = some .directory) (listed : name ∈ t.names d) (few : n ≤ t.maxLinks)
    (fits : (Walk.below p name).size ≤ t.maxSize)
    (few' : ∀ m q, Leads t.node? m (origin cwd p) (p.parts ++ [name]) q → m ≤ t.maxLinks) :
    Entry t cwd (Walk.below p name) d name where
  last := by simp [Walk.below, Path.name]
  isName := isName_of_mem_names sound listed
  own := leads.ownPlace few fits dir (isName_of_mem_names sound listed)
  place_eq := ⟨t.maxLinks - n, leads.followPath_below few fits true⟩
  place_iff q := by
    rw [place_eq_ok_iff]
    constructor
    · rintro ⟨_, m, _, whole⟩
      obtain ⟨k, _, goes⟩ := leads.rest whole
      exact ⟨k, goes⟩
    · rintro ⟨k, goes⟩
      have whole := leads.append goes
      exact ⟨fits, n + k, few' _ _ whole, whole⟩

namespace Entry

variable (h : Entry t cwd p d name)

include h

theorem isFile_iff : t.isFile cwd p = .ok true ↔
    ∃ q, LeadsTo t.node? d name q ∧ (t.node? q).any FileNode.isRegular = true := by
  simp only [FileTree.isFile_iff, h.place_iff]

/-- It can be told of a name whether it is that of a file, unless a link on the way is too long. -/
theorem isFile_ne_error (short : ShortLinks t) (e : FileError) : t.isFile cwd p ≠ .error e := by
  intro fails
  obtain ⟨links, there⟩ := h.place_eq
  refine short.follow_ne ?_ (there.symm.trans (isFile_eq_error_iff.1 fails).2)
  intro part mem
  rw [List.mem_singleton.1 mem]
  exact h.isName.2.2

theorem listable_iff (sound : t.Sound) : Walk.listable t cwd p = .ok q ↔
    LeadsTo t.node? d name q ∧ t.node? q = some .directory := by
  rw [listable_eq_ok_iff sound, h.place_iff]

theorem isLink_iff : t.isLink cwd p = true ↔
    ∃ target, t.node? (d ++ [name]) = some (.link target) := by
  have own : ((t.ownPlace cwd p).toOption.bind t.node?) = t.node? (d ++ [name]) := by
    rw [h.own]
    rfl
  rw [FileTree.isLink, own]
  split
  · rename_i target link
    simp [link]
  · rename_i noLink
    simp only [Bool.false_eq_true, false_iff, not_exists]
    exact noLink

end Entry

theorem leadsIn_iff (h : Entry t cwd (Walk.below p name) d name)
    (dir : t.node? d = some .directory) : Walk.leadsIn t cwd p d name = true ↔
      ∃ q, LeadsTo t.node? d name q ∧ t.node? q = some .directory := by
  unfold Walk.leadsIn
  split
  · rename_i isDir
    refine iff_of_true rfl ⟨d ++ [name], (leadsTo_own_iff dir h.isName ?_).2 rfl, isDir⟩
    simp [isDir]
  · rw [decide_eq_true_eq, toOption_eq_some_iff, find_eq_ok_iff]
    simp only [h.place_iff]
  · rename_i other noLink
    simp only [Bool.false_eq_true, false_iff, not_exists, not_and]
    rintro q leads isDir
    rw [(leadsTo_own_iff dir h.isName noLink).1 leads] at isDir
    exact other isDir

end FileTree
end EpubLibrary
