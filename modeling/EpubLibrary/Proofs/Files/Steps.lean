import EpubLibrary.Proofs.Files.Reach

namespace EpubLibrary.Walk

open FileTree

variable {t : FileTree} {w v : Walk} {cwd d sub : Place} {p : Path} {followLinks : Bool}
  {name : Component} {task : WalkTask} {event : Option WalkEvent}

/-! ## From step to step -/

theorem wellFounded_step (t : FileTree) :
    WellFounded fun v w : Walk => ∃ event, step t w = some (event, v) := by
  have measured := InvImage.wf (fun w : Walk => (t.unlisted w.seen, w.tasks.length))
    (Prod.lex Nat.lt_wfRel Nat.lt_wfRel).wf
  refine Subrelation.wf ?_ measured
  rintro v w ⟨event, stepped⟩
  exact Prod.lex_def.2 (step_nearer stepped)

def last (t : FileTree) (w : Walk) : Walk :=
  match _h : step t w with
  | none => w
  | some (_, v) => last t v
  termination_by (t.unlisted w.seen, w.tasks.length)
  decreasing_by exact Prod.lex_def.2 (step_nearer (by assumption))

theorem tasks_of_end (ends : step t w = none) : w.tasks = [] := by
  unfold step at ends
  split at ends
  · assumption
  · cases ends

theorem last_of_end (ends : step t w = none) : last t w = w := by
  rw [last]
  split
  · rfl
  · simp_all

theorem last_of_step (goes : step t w = some (event, v)) : last t w = last t v := by
  rw [last]
  split
  · simp_all
  · simp_all

theorem finish_of_end (ends : step t w = none) : finish t w = [] := by
  rw [finish]
  split
  · rfl
  · simp_all
  · simp_all

theorem finish_of_step (goes : step t w = some (event, v)) :
    finish t w = event.toList ++ finish t v := by
  rw [finish]
  split
  · simp_all
  · simp_all
  · rename_i going
    rw [goes] at going
    cases going
    rfl

/-! ## What a task does -/

def pathOf : WalkTask → Path
  | .directory p | .subdirectory p | .file p => p

def file? : WalkTask → Option Path
  | .directory _ | .subdirectory _ => none
  | .file p => some p

/-- The directory that a task gets to. -/
def target (t : FileTree) (cwd : Place) (followLinks : Bool) : WalkTask → Option Place
  | .directory p => (listable t cwd p).toOption
  | .subdirectory p =>
    if !followLinks && t.isLink cwd p then none else (listable t cwd p).toOption
  | .file _ => none

/-- The directory that a task gets to is where its path leads. -/
theorem leads_of_target (sound : t.Sound) (gets : target t cwd followLinks task = some d) :
    ∃ n, Leads t.node? n (origin cwd (pathOf task)) (pathOf task).parts d := by
  have found : t.place cwd (pathOf task) = .ok d := by
    cases task with
    | directory p => exact ((listable_eq_ok_iff sound).1 (toOption_eq_some_iff.1 gets)).1
    | subdirectory p =>
      rw [target] at gets
      split at gets
      · cases gets
      · exact ((listable_eq_ok_iff sound).1 (toOption_eq_some_iff.1 gets)).1
    | file p => cases gets
  obtain ⟨_, n, _, leads⟩ := place_eq_ok_iff.1 found
  exact ⟨n, leads⟩

/-- A walk ends before its time only at a supported file of which it cannot be told whether it is
one. -/
theorem perform_failed {e : FileError} (h : perform t w task = (some (.failed p e), v)) :
    task = .file p ∧ (Format.ofPath? p).isSome = true ∧ t.isFile w.cwd p = .error e ∧
      v = { w with tasks := [] } := by
  have entered : ∀ q, (enter t w q).1 ≠ some (.failed p e) := by
    intro q
    unfold enter
    split
    · simp
    · split <;> simp
  cases task with
  | directory q => exact absurd (congrArg Prod.fst h) (entered q)
  | subdirectory q =>
    rw [perform] at h
    split at h
    · cases h
    · exact absurd (congrArg Prod.fst h) (entered q)
  | file q =>
    rw [perform] at h
    split at h
    · cases h
    · rename_i supported
      split at h
      · cases h
      · cases h
      · rename_i fails
        cases h
        exact ⟨rfl, by simpa [Option.isSome_iff_ne_none] using supported, fails, rfl⟩

theorem step_failed {e : FileError} (stepped : step t w = some (some (.failed p e), v)) :
    .file p ∈ w.tasks ∧ (Format.ofPath? p).isSome = true ∧ t.isFile w.cwd p = .error e ∧
      v = { w with tasks := [] } := by
  cases left : w.tasks with
  | nil => simp [step, left] at stepped
  | cons task tasks =>
    simp only [step, left, Option.some.injEq] at stepped
    obtain ⟨rfl, supported, fails, after⟩ := perform_failed stepped
    exact ⟨List.mem_cons_self, supported, fails, after⟩

theorem step_cwd (stepped : step t w = some (event, v)) : v.cwd = w.cwd := by
  have entered : ∀ (w : Walk) q, (enter t w q).2.cwd = w.cwd := by
    intro w q
    unfold enter
    split
    · rfl
    · split <;> rfl
  cases left : w.tasks with
  | nil => simp [step, left] at stepped
  | cons task tasks =>
    simp only [step, left, Option.some.injEq] at stepped
    have next : v = (perform t { w with tasks := tasks } task).2 := by rw [stepped]
    rw [next]
    cases task with
    | directory q => exact entered _ q
    | subdirectory q =>
      rw [perform]
      split
      · rfl
      · exact entered _ q
    | file q =>
      rw [perform]
      split
      · rfl
      · split <;> rfl

theorem failed_of_mem_finish {e : FileError} (h : .failed p e ∈ finish t w) :
    (Format.ofPath? p).isSome = true ∧ t.isFile w.cwd p = .error e := by
  induction w using (wellFounded_step t).induction with
  | h w ih =>
    cases ends : step t w with
    | none =>
      rw [finish_of_end ends] at h
      cases h
    | some next =>
      obtain ⟨event, v⟩ := next
      rw [finish_of_step ends, List.mem_append, Option.mem_toList] at h
      rcases h with now | later
      · obtain ⟨_, supported, fails, _⟩ := step_failed (now ▸ ends)
        exact ⟨supported, fails⟩
      · rw [← step_cwd ends]
        exact ih v ⟨event, ends⟩ later

/-- What is left to do when a task is done, and the walk does not end there. -/
theorem perform_walk (goes : ∀ p e, (perform t w task).1 ≠ some (.failed p e)) :
    (perform t w task).2 =
      match target t w.cwd w.followLinks task with
      | none => w
      | some d =>
        if d ∈ w.seen then w
        else { w with seen := d :: w.seen, tasks := tasksOf t w (pathOf task) d ++ w.tasks } := by
  have entered : ∀ p, (enter t w p).2 =
      match (listable t w.cwd p).toOption with
      | none => w
      | some d =>
        if d ∈ w.seen then w
        else { w with seen := d :: w.seen, tasks := tasksOf t w p d ++ w.tasks } := by
    intro p
    unfold enter
    cases listable t w.cwd p with
    | error e => rfl
    | ok d =>
      dsimp only [Except.toOption]
      split <;> rfl
  cases task with
  | directory p => exact entered p
  | subdirectory p =>
    rw [perform, target]
    by_cases barred : (!w.followLinks && t.isLink w.cwd p) = true
    · rw [if_pos barred, if_pos barred]
    · rw [if_neg barred, if_neg barred]
      exact entered p
  | file p =>
    rw [target]
    rw [perform] at goes ⊢
    split
    · rfl
    · split
      · rfl
      · rfl
      · simp_all

def isSource (t : FileTree) (cwd : Place) (p : Path) : Bool :=
  (Format.ofPath? p).isSome && (t.isFile cwd p).toOption = some true

/-- Only a task of a file finds one, if the file is supported and regular. -/
theorem perform_file? (t : FileTree) (w : Walk) (task : WalkTask) :
    (perform t w task).1.bind WalkEvent.file? = (file? task).filter (isSource t w.cwd) := by
  have entered : ∀ p, (enter t w p).1.bind WalkEvent.file? = none := by
    intro p
    unfold enter
    split
    · rfl
    · split <;> rfl
  cases task with
  | directory p => exact entered p
  | subdirectory p =>
    rw [perform]
    split
    · rfl
    · exact entered p
  | file p =>
    rw [perform, file?]
    cases supported : Format.ofPath? p with
    | none => simp [Option.filter, isSource, supported]
    | some format =>
      rcases asked : t.isFile w.cwd p with e | regular
      · simp [Option.filter, isSource, supported, asked, Except.toOption, WalkEvent.file?]
      · cases regular <;>
          simp [Option.filter, isSource, supported, asked, Except.toOption, WalkEvent.file?]

theorem isSource_iff (h : Entry t cwd p d name) (listed : name ∈ t.names d) :
    isSource t cwd p = true ↔ Sought t d name := by
  have format : Format.ofPath? p = Format.ofPath? ⟨0, [name]⟩ := by
    rw [Format.ofPath?, Format.ofPath?, Path.suffix, Path.suffix, h.last]
    rfl
  rw [isSource, Bool.and_eq_true, format, decide_eq_true_eq, toOption_eq_some_iff, h.isFile_iff]
  constructor
  · rintro ⟨supported, regular⟩
    exact ⟨listed, supported, regular⟩
  · rintro ⟨_, supported, regular⟩
    exact ⟨supported, regular⟩

/-- The task of a subdirectory gets to what its name opens. -/
theorem target_subdirectory_iff (h : Entry t cwd p d name) (sound : t.Sound)
    (dir : t.node? d = some .directory) (isName : Path.IsName name) :
    target t cwd followLinks (.subdirectory p) = some sub ↔
      Opens t.node? followLinks d name sub := by
  have isLink := h.isLink_iff
  rw [target]
  constructor
  · intro gets
    split at gets
    · cases gets
    · rename_i followed
      rw [toOption_eq_some_iff, h.listable_iff sound] at gets
      refine opens_of_leadsTo gets.1 isName gets.2 ?_
      by_cases followLinks = true
      · exact .inl ‹_›
      · refine .inr fun target link => followed ?_
        simp_all
  · intro opens
    have gets := (h.listable_iff sound).2 ⟨opens.leadsTo dir isName, opens.directory_there⟩
    rw [gets, if_neg]
    · rfl
    · cases opens with
      | directory own => simp [← Bool.not_eq_true, isLink, own]
      | link followed => simp [followed]

theorem mem_tasksOf {w : Walk} : task ∈ tasksOf t w p d ↔ ∃ name ∈ t.names d,
    task = .file (below p name) ∧ leadsIn t w.cwd p d name = false ∨
    task = .subdirectory (below p name) ∧ leadsIn t w.cwd p d name = true := by
  have sorted : ∀ name, name ∈ (t.names d).mergeSort
      (fun a b => String.ofList a ≤ String.ofList b) ↔ name ∈ t.names d := by
    simp
  simp only [tasksOf, List.mem_append, List.mem_map, List.mem_filter, sorted]
  constructor
  · rintro (⟨name, ⟨listed, other⟩, rfl⟩ | ⟨name, ⟨listed, dir⟩, rfl⟩)
    · exact ⟨name, listed, .inl ⟨rfl, by simpa using other⟩⟩
    · exact ⟨name, listed, .inr ⟨rfl, dir⟩⟩
  · rintro ⟨name, listed, ⟨rfl, other⟩ | ⟨rfl, dir⟩⟩
    · exact .inl ⟨name, ⟨listed, by simpa using other⟩, rfl⟩
    · exact .inr ⟨name, ⟨listed, dir⟩, rfl⟩

/-- The tasks of a directory get to what its names open. -/
theorem exists_target_iff (sound : t.Sound) (dir : t.node? d = some .directory)
    (entry : ∀ name ∈ t.names d, Entry t w.cwd (below p name) d name) :
    (∃ task ∈ tasksOf t w p d, target t w.cwd followLinks task = some sub) ↔
      ∃ name, Opens t.node? followLinks d name sub := by
  have opens : ∀ name ∈ t.names d,
      (target t w.cwd followLinks (.subdirectory (below p name)) = some sub ↔
        Opens t.node? followLinks d name sub) := by
    intro name listed
    exact target_subdirectory_iff (entry name listed) sound dir (isName_of_mem_names sound listed)
  constructor
  · rintro ⟨task, mem, gets⟩
    obtain ⟨name, listed, ⟨rfl, _⟩ | ⟨rfl, _⟩⟩ := mem_tasksOf.1 mem
    · cases gets
    · exact ⟨name, (opens name listed).1 gets⟩
  · rintro ⟨name, opened⟩
    have listed : name ∈ t.names d := (mem_names_iff sound).2 opened.entry
    have isDir : leadsIn t w.cwd p d name = true := by
      rw [leadsIn_iff (entry name listed) dir]
      exact ⟨sub, opened.leadsTo dir (isName_of_mem_names sound listed), opened.directory_there⟩
    exact ⟨_, mem_tasksOf.2 ⟨name, listed, .inr ⟨rfl, isDir⟩⟩, (opens name listed).2 opened⟩

/-- The files of a directory are its names that do not lead to directories. -/
theorem exists_files (w : Walk) (p : Path) (d : Place) (sound : t.Sound) :
    ∃ names : List Component, (tasksOf t w p d).filterMap file? = names.map (below p) ∧
      names.Nodup ∧ ∀ name, name ∈ names ↔
        name ∈ t.names d ∧ leadsIn t w.cwd p d name = false := by
  have subdirectories : file? ∘ (fun name => WalkTask.subdirectory (below p name)) =
      fun _ => none := rfl
  have files : file? ∘ (fun name => WalkTask.file (below p name)) =
      some ∘ below p := rfl
  simp only [tasksOf, List.filterMap_append, List.filterMap_map, subdirectories, files,
    List.filterMap_eq_map, List.filterMap_none, List.append_nil]
  refine ⟨_, rfl, ?_, ?_⟩
  · have sorted := List.mergeSort_perm (t.names d)
      fun a b => decide (String.ofList a ≤ String.ofList b)
    exact (sorted.nodup_iff.2 (nodup_names sound d)).filter _
  · intro name
    simp

end EpubLibrary.Walk
