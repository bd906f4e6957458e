import EpubLibrary.Files.Tree
import EpubLibrary.Format

/-!
# Walking a file tree

A `Walk` visits the directories below a root, each with its files before its directories, both in
the order of their names. It lists a directory when it gets there and not before. `Walk.step` takes
one task off the walk. A directory that was listed before is skipped, so every step either leaves
fewer directories to list or fewer tasks, and the walk ends. `Walk.next` goes on to the next
supported file, and `Walk.finish` to the end. A walk that fails is at its end.
-/

namespace EpubLibrary

/-- Why something is passed over. -/
inductive SkipReason where
  /-- a directory cannot be listed -/
  | unlisted (e : FileError)
  /-- a directory was visited on another path -/
  | visited
  | notRegular
  deriving DecidableEq

def SkipReason.text : SkipReason → String
  | .unlisted e => e.text
  | .visited => "directory already visited (symlink cycle)"
  | .notRegular => "not a regular file"

/-- What a walk comes upon. -/
inductive WalkEvent where
  | found (p : Path)
  | skipped (p : Path) (reason : SkipReason)
  /-- the walk ends here: what stands at a path cannot be asked -/
  | failed (p : Path) (e : FileError)
  deriving DecidableEq

/-- How a skipped path is told. -/
def skipMessage (p : Path) (reason : SkipReason) : String :=
  "Skipping " ++ p.text ++ ": " ++ reason.text

/-- What is still to be visited. -/
inductive WalkTask where
  | directory (p : Path)
  /-- a directory below the root, which may be a link that is not to be followed -/
  | subdirectory (p : Path)
  | file (p : Path)

/-- A walk under way: where paths start, the directories listed, and the tasks left. -/
structure Walk where
  cwd : Place
  followLinks : Bool
  seen : List Place
  tasks : List WalkTask

/-- The directories of a tree that a list lacks. -/
def FileTree.unlisted (t : FileTree) (seen : List Place) : Nat :=
  (t.directories.filter (· ∉ seen)).length

theorem FileTree.unlisted_cons_lt {t : FileTree} {seen : List Place} {place : Place}
    (isIn : place ∈ t.directories) (isNew : place ∉ seen) :
    t.unlisted (place :: seen) < t.unlisted seen := by
  have split : (t.directories.filter (· ∉ place :: seen)) =
      (t.directories.filter (· ∉ seen)).filter (· ≠ place) := by
    rw [List.filter_filter]
    congr 1
    funext p
    simp [List.mem_cons, not_or]
  rw [FileTree.unlisted, split, FileTree.unlisted]
  refine List.length_filter_lt_length_iff_exists.2 ⟨place, ?_, by simp⟩
  exact List.mem_filter.2 ⟨isIn, by simpa using isNew⟩

namespace Walk

def start (cwd : Place) (root : Path) (followLinks : Bool) : Walk :=
  ⟨cwd, followLinks, [], [.directory root]⟩

/-- The path of a name in a directory. -/
def below (p : Path) (name : Component) : Path := ⟨p.slashes, p.parts ++ [name]⟩

/-- Does a name in a directory at a path lead to a directory? Only a link is looked behind, and an
error there is no. -/
def leadsIn (t : FileTree) (cwd : Place) (p : Path) (place : Place) (name : Component) : Bool :=
  match t.node? (place ++ [name]) with
  | some .directory => true
  | some (.link _) => (t.find cwd (below p name)).toOption = some .directory
  | _ => false

/-- The tasks of a directory: its files, then its directories. -/
def tasksOf (t : FileTree) (w : Walk) (p : Path) (place : Place) : List WalkTask :=
  let names := (t.names place).mergeSort fun a b => String.ofList a ≤ String.ofList b
  let isDir := leadsIn t w.cwd p place
  (names.filter (!isDir ·)).map (fun name => .file (below p name)) ++
    (names.filter isDir).map (fun name => .subdirectory (below p name))

/-- The place of a directory that can be listed. -/
def listable (t : FileTree) (cwd : Place) (p : Path) : Except FileError Place := do
  let place ← t.place cwd p
  match t.node? place with
  | none => throw .notFound
  | some _ => if place ∈ t.directories then pure place else throw .notDirectory

/-- Enters a directory. -/
def enter (t : FileTree) (w : Walk) (p : Path) : Option WalkEvent × Walk :=
  match listable t w.cwd p with
  | .error e => (some (.skipped p (.unlisted e)), w)
  | .ok place =>
    if place ∈ w.seen then (some (.skipped p .visited), w)
    else (none, { w with seen := place :: w.seen, tasks := tasksOf t w p place ++ w.tasks })

/-- Does a task that was taken off a walk. A file that cannot be asked for ends the walk. -/
def perform (t : FileTree) (w : Walk) : WalkTask → Option WalkEvent × Walk
  | .directory p => enter t w p
  | .subdirectory p => if !w.followLinks && t.isLink w.cwd p then (none, w) else enter t w p
  | .file p =>
    if (Format.ofPath? p).isNone then (none, w)
    else
      match t.isFile w.cwd p with
      | .ok true => (some (.found p), w)
      | .ok false => (some (.skipped p .notRegular), w)
      | .error e => (some (.failed p e), { w with tasks := [] })

/-- Does the first task. -/
def step (t : FileTree) (w : Walk) : Option (Option WalkEvent × Walk) :=
  match w.tasks with
  | [] => none
  | task :: tasks => some (perform t { w with tasks := tasks } task)

/-- One walk is nearer to its end than another. -/
def Nearer (t : FileTree) (w v : Walk) : Prop :=
  t.unlisted w.seen < t.unlisted v.seen ∨
    t.unlisted w.seen = t.unlisted v.seen ∧ w.tasks.length < v.tasks.length

theorem mem_directories_of_listable {t : FileTree} {cwd : Place} {p : Path} {place : Place}
    (h : listable t cwd p = .ok place) : place ∈ t.directories := by
  unfold listable at h
  cases hp : t.place cwd p with
  | error e => simp [hp, bind, Except.bind] at h
  | ok q =>
    simp only [hp, bind, Except.bind] at h
    split at h
    · simp [throw, throwThe, MonadExceptOf.throw] at h
    · split at h
      · simp only [pure, Except.pure, Except.ok.injEq] at h
        exact h ▸ ‹_›
      · simp [throw, throwThe, MonadExceptOf.throw] at h

theorem enter_nearer {t : FileTree} {w v : Walk} {p : Path} (seen : w.seen = v.seen)
    (tasks : w.tasks.length < v.tasks.length) : Nearer t (enter t w p).2 v := by
  unfold enter
  split
  · exact .inr ⟨by rw [seen], tasks⟩
  · rename_i place hplace
    split
    · exact .inr ⟨by rw [seen], tasks⟩
    · rename_i isNew
      exact .inl (seen ▸ FileTree.unlisted_cons_lt (mem_directories_of_listable hplace) isNew)

theorem perform_nearer {t : FileTree} {w v : Walk} (task : WalkTask) (seen : w.seen = v.seen)
    (tasks : w.tasks.length < v.tasks.length) : Nearer t (perform t w task).2 v := by
  have same : Nearer t w v := .inr ⟨by rw [seen], tasks⟩
  cases task with
  | directory p => exact enter_nearer seen tasks
  | subdirectory p =>
    rw [perform]
    split
    · exact same
    · exact enter_nearer seen tasks
  | file p =>
    rw [perform]
    split
    · exact same
    · split
      · exact same
      · exact same
      · exact .inr ⟨by rw [seen], Nat.zero_lt_of_lt tasks⟩

theorem step_nearer {t : FileTree} {w v : Walk} {e : Option WalkEvent}
    (h : step t w = some (e, v)) : Nearer t v w := by
  unfold step at h
  split at h
  · exact absurd h (by simp)
  · rename_i task tasks heq
    have hv : v = (perform t { w with tasks := tasks } task).2 := by
      rw [Option.some.inj h]
    exact hv ▸ perform_nearer task rfl (by simp [heq])

/-- What a walk comes upon up to its next file, and the walk behind it. -/
def next (t : FileTree) (w : Walk) : List WalkEvent × Walk :=
  match _h : step t w with
  | none => ([], w)
  | some (none, v) => next t v
  | some (some (.found p), v) => ([.found p], v)
  | some (some e, v) =>
    let (events, last) := next t v
    (e :: events, last)
  termination_by (t.unlisted w.seen, w.tasks.length)
  decreasing_by all_goals exact Prod.lex_def.2 (step_nearer (by assumption))

/-- All that a walk comes upon. -/
def finish (t : FileTree) (w : Walk) : List WalkEvent :=
  match _h : step t w with
  | none => []
  | some (none, v) => finish t v
  | some (some e, v) => e :: finish t v
  termination_by (t.unlisted w.seen, w.tasks.length)
  decreasing_by all_goals exact Prod.lex_def.2 (step_nearer (by assumption))

end Walk

/-- The file of an event, if it found one. -/
def WalkEvent.file? : WalkEvent → Option Path
  | .found p => some p
  | .skipped .. => none
  | .failed .. => none

/-- The warning of an event, if it skipped something. -/
def WalkEvent.warning? : WalkEvent → Option String
  | .found _ => none
  | .skipped p reason => some (skipMessage p reason)
  | .failed .. => none

/-- The path and the error of an event that ended the walk. -/
def WalkEvent.failure? : WalkEvent → Option (Path × FileError)
  | .found _ => none
  | .skipped .. => none
  | .failed p e => some (p, e)

/-- All that a walk of a root comes upon. -/
def walk (t : FileTree) (cwd : Place) (root : Path) (followLinks : Bool) : List WalkEvent :=
  (Walk.start cwd root followLinks).finish t

end EpubLibrary
