import EpubLibrary.Proofs.Files.Order

namespace EpubLibrary.Walk

open FileTree

variable {t : FileTree} {cwd d : Place} {root p : Path} {followLinks : Bool} {name : Component}

/-! ## What a walk has covered so far -/

section Covered

variable (t : FileTree) (cwd : Place) (root : Path) (followLinks : Bool)

/-- The directories that a walk must get to from those it has seen: that of the root, and those that
they open. -/
inductive Due (seen : List Place) : Place → Prop where
  | root {n : Nat} {d : Place} (leads : Leads t.node? n (origin cwd root) root.parts d)
      (dir : t.node? d = some .directory) : Due seen d
  | sub {d sub : Place} {name : Component} (above : d ∈ seen)
      (opens : Opens t.node? followLinks d name sub) : Due seen sub

/-- The directories that a walk has seen can be reached, and so can those its tasks get to. What it
must get to from there, it has seen or gets to with a task. -/
structure Explored (seen : List Place) (tasks : List WalkTask) : Prop where
  distinct : seen.Nodup
  reached : ∀ d ∈ seen, Reached t.node? cwd root followLinks d
  rooted : ∀ task ∈ tasks, Rooted t root seen.length (pathOf task)
  gets : ∀ task ∈ tasks, ∀ d, target t cwd followLinks task = some d →
    Reached t.node? cwd root followLinks d
  complete : ∀ d, Due t cwd root followLinks seen d →
    d ∈ seen ∨ ∃ task ∈ tasks, target t cwd followLinks task = some d

/-- The paths are those of the names in the directories that a walk has seen, each once. Only names
that lead to directories may be missing. -/
structure Listed (seen : List Place) (paths : List Path) : Prop where
  entries : ∀ p ∈ paths, ∃ d ∈ seen, ∃ name ∈ t.names d, Entry t cwd p d name
  once : (paths.map (t.ownPlace cwd)).Nodup
  all : ∀ d ∈ seen, ∀ name ∈ t.names d,
    (∃ sub, LeadsTo t.node? d name sub ∧ t.node? sub = some .directory) ∨
      ∃ p ∈ paths, Entry t cwd p d name

end Covered

variable {w v : Walk} {seen : List Place} {tasks : List WalkTask} {task : WalkTask}
  {paths done : List Path} {event : Option WalkEvent}

theorem Explored.drop (h : Explored t cwd root followLinks seen (task :: tasks))
    (old : ∀ d, target t cwd followLinks task = some d → d ∈ seen) :
    Explored t cwd root followLinks seen tasks where
  distinct := h.distinct
  reached := h.reached
  rooted other mem := h.rooted other (List.mem_cons_of_mem task mem)
  gets other mem := h.gets other (List.mem_cons_of_mem task mem)
  complete d due := by
    rcases h.complete d due with mem | ⟨other, mem, gets⟩
    · exact .inl mem
    · rcases List.mem_cons.1 mem with rfl | mem
      · exact .inl (old d gets)
      · exact .inr ⟨other, mem, gets⟩

theorem length_seen_le (sound : t.Sound) (distinct : seen.Nodup)
    (dirs : ∀ d ∈ seen, t.node? d = some .directory) : seen.length ≤ t.directories.length :=
  distinct.length_le_of_subset fun d mem => (mem_directories_iff sound).2 (dirs d mem)

/-- The paths below that of a task are those of the names in the directory it gets to. -/
theorem Explored.entry (h : Explored t cwd root followLinks seen (task :: tasks))
    (sound : t.Sound) (within : WithinLimit t cwd root)
    (gets : target t cwd followLinks task = some d) (new : d ∉ seen) (mem : name ∈ t.names d) :
    Entry t cwd (below (pathOf task) name) d name := by
  have reached := h.gets task List.mem_cons_self d gets
  obtain ⟨n, leads⟩ := leads_of_target sound gets
  have rooted := h.rooted task List.mem_cons_self
  -- A directory is new, so those seen are not all of them, and one more name is within the limit.
  have room : seen.length + 1 ≤ t.directories.length := by
    refine length_seen_le sound (List.nodup_cons.2 ⟨new, h.distinct⟩) ?_
    intro e mem_e
    rcases List.mem_cons.1 mem_e with rfl | old
    · exact reached.directory_there
    · exact (h.reached e old).directory_there
  have few := (within _ (rooted.mono (by omega))).2 n d leads
  obtain ⟨fits, few_below⟩ := within _ ((rooted.below mem).mono room)
  exact entry_below sound leads reached.directory_there mem few fits few_below

/-- A directory that is new is seen with the tasks of its names. -/
theorem Explored.expand (h : Explored t w.cwd root followLinks seen (task :: tasks))
    (sound : t.Sound) (within : WithinLimit t w.cwd root)
    (gets : target t w.cwd followLinks task = some d) (new : d ∉ seen) :
    Explored t w.cwd root followLinks (d :: seen) (tasksOf t w (pathOf task) d ++ tasks) := by
  have reached := h.gets task List.mem_cons_self d gets
  have entry : ∀ name ∈ t.names d, Entry t w.cwd (below (pathOf task) name) d name := by
    intro name listed
    exact h.entry sound within gets new listed
  have opens : ∀ sub, (∃ other ∈ tasksOf t w (pathOf task) d,
      target t w.cwd followLinks other = some sub) ↔
        ∃ name, Opens t.node? followLinks d name sub := by
    intro sub
    exact exists_target_iff sound reached.directory_there entry
  constructor
  case distinct => exact List.nodup_cons.2 ⟨new, h.distinct⟩
  case reached =>
    intro e mem
    rcases List.mem_cons.1 mem with rfl | mem
    · exact reached
    · exact h.reached e mem
  case rooted =>
    intro other mem
    rw [List.length_cons]
    rcases List.mem_append.1 mem with mem | mem
    · obtain ⟨name, listed, ⟨rfl, _⟩ | ⟨rfl, _⟩⟩ := mem_tasksOf.1 mem
      · exact (h.rooted task List.mem_cons_self).below listed
      · exact (h.rooted task List.mem_cons_self).below listed
    · exact (h.rooted other (List.mem_cons_of_mem task mem)).mono (Nat.le_succ _)
  case gets =>
    intro other mem sub other_gets
    rcases List.mem_append.1 mem with mem | mem
    · obtain ⟨name, opened⟩ := (opens sub).1 ⟨other, mem, other_gets⟩
      exact .sub reached opened
    · exact h.gets other (List.mem_cons_of_mem task mem) sub other_gets
  case complete =>
    intro e due
    by_cases opened : ∃ name, Opens t.node? followLinks d name e
    · obtain ⟨other, mem, other_gets⟩ := (opens e).2 opened
      exact .inr ⟨other, List.mem_append_left tasks mem, other_gets⟩
    · have was_due : Due t w.cwd root followLinks seen e := by
        cases due with
        | root leads dir => exact .root leads dir
        | @sub above _ name mem opens_e =>
          rcases List.mem_cons.1 mem with rfl | mem
          · exact absurd ⟨name, opens_e⟩ opened
          · exact .sub mem opens_e
      rcases h.complete e was_due with mem | ⟨other, mem, other_gets⟩
      · exact .inl (List.mem_cons_of_mem d mem)
      · rcases List.mem_cons.1 mem with rfl | mem
        · obtain rfl := Option.some.inj (gets.symm.trans other_gets)
          exact .inl List.mem_cons_self
        · exact .inr ⟨other, List.mem_append_right _ mem, other_gets⟩

theorem Listed.perm {paths' : List Path} (h : Listed t cwd seen paths) (same : paths'.Perm paths) :
    Listed t cwd seen paths' where
  entries p mem := h.entries p (same.mem_iff.1 mem)
  once := (same.map _).nodup_iff.2 h.once
  all d mem name listed := by
    rcases h.all d mem name listed with dir | ⟨p, mem, entry⟩
    · exact .inl dir
    · exact .inr ⟨p, same.mem_iff.2 mem, entry⟩

theorem Listed.expand (h : Listed t w.cwd seen paths) (sound : t.Sound) (new : d ∉ seen)
    (isDir : t.node? d = some .directory)
    (entry : ∀ name ∈ t.names d, Entry t w.cwd (below p name) d name) :
    Listed t w.cwd (d :: seen) ((tasksOf t w p d).filterMap file? ++ paths) := by
  obtain ⟨names, files, distinct, mem_names⟩ := exists_files w p d sound
  rw [files]
  constructor
  case entries =>
    intro q mem
    rcases List.mem_append.1 mem with mem | mem
    · obtain ⟨name, isFile, rfl⟩ := List.mem_map.1 mem
      have listed := ((mem_names name).1 isFile).1
      exact ⟨d, List.mem_cons_self, name, listed, entry name listed⟩
    · obtain ⟨e, seen_e, name, listed, at_q⟩ := h.entries q mem
      exact ⟨e, List.mem_cons_of_mem d seen_e, name, listed, at_q⟩
  case once =>
    have own : ∀ name ∈ names, t.ownPlace w.cwd (below p name) = .ok (d ++ [name]) := by
      intro name isFile
      exact (entry name ((mem_names name).1 isFile).1).own
    rw [List.map_append, List.map_map, List.nodup_append']
    refine ⟨distinct.map_on ?_, h.once, ?_⟩
    · intro a mem_a b mem_b eq
      rw [Function.comp_apply, Function.comp_apply, own a mem_a, own b mem_b] at eq
      simpa using eq
    · intro place mem mem_old
      obtain ⟨name, isFile, rfl⟩ := List.mem_map.1 mem
      obtain ⟨q, mem_q, eq⟩ := List.mem_map.1 mem_old
      obtain ⟨e, seen_e, other, _, at_q⟩ := h.entries q mem_q
      rw [Function.comp_apply, own name isFile, at_q.own] at eq
      have old : e = d := (List.append_singleton_inj.1 (Except.ok.inj eq)).1
      exact new (old ▸ seen_e)
  case all =>
    intro e mem name listed
    rcases List.mem_cons.1 mem with rfl | mem
    · by_cases dir : leadsIn t w.cwd p e name = true
      · exact .inl ((leadsIn_iff (entry name listed) isDir).1 dir)
      · have isFile : name ∈ names := (mem_names name).2 ⟨listed, by simpa using dir⟩
        exact .inr ⟨below p name, List.mem_append_left _ (List.mem_map_of_mem isFile),
          entry name listed⟩
    · rcases h.all e mem name listed with dir | ⟨q, mem, at_q⟩
      · exact .inl dir
      · exact .inr ⟨q, List.mem_append_right _ mem, at_q⟩

/-- A walk with the tasks of some files behind it has covered what it has seen. -/
structure Covered (t : FileTree) (cwd : Place) (root : Path) (followLinks : Bool) (w : Walk)
    (done : List Path) : Prop where
  starts : w.cwd = cwd
  follows : w.followLinks = followLinks
  explored : Explored t cwd root followLinks w.seen w.tasks
  listed : Listed t cwd w.seen (done ++ w.tasks.filterMap file?)

theorem covered_start (t : FileTree) (cwd : Place) (root : Path) (followLinks : Bool)
    (sound : t.Sound) (within : WithinLimit t cwd root) :
    Covered t cwd root followLinks (Walk.start cwd root followLinks) [] := by
  have gets : ∀ d, target t cwd followLinks (.directory root) = some d ↔
      (∃ n, Leads t.node? n (origin cwd root) root.parts d) ∧ t.node? d = some .directory := by
    intro d
    rw [target, toOption_eq_some_iff, listable_eq_ok_iff sound, place_eq_ok_iff]
    obtain ⟨fits, few⟩ := within root (rooted_root t root _)
    refine and_congr_left fun _ => (and_iff_right fits).trans (exists_congr fun n => ?_)
    exact and_iff_right_of_imp fun leads => few n d leads
  refine ⟨rfl, rfl, ⟨List.nodup_nil, by simp [Walk.start], ?_, ?_, ?_⟩,
    by simp [Walk.start, file?], List.nodup_nil, by simp [Walk.start]⟩
  · intro task mem
    rw [List.mem_singleton.1 mem]
    exact rooted_root t root _
  · intro task mem d task_gets
    rw [List.mem_singleton.1 mem] at task_gets
    obtain ⟨⟨n, leads⟩, dir⟩ := (gets d).1 task_gets
    exact .root leads dir
  · intro d due
    cases due with
    | root leads dir => exact .inr ⟨_, List.mem_singleton_self _, (gets d).2 ⟨⟨_, leads⟩, dir⟩⟩
    | sub above _ => cases above

/-- A step that does not end the walk keeps what is covered, and finds the file of its task if that
is to be found. -/
theorem Covered.step (h : Covered t cwd root followLinks w done) (sound : t.Sound)
    (within : WithinLimit t cwd root) (stepped : Walk.step t w = some (event, v))
    (goes : ∀ p e, event ≠ some (.failed p e)) :
    ∃ now, Covered t cwd root followLinks v (done ++ now) ∧
      event.toList.filterMap WalkEvent.file? = now.filter (isSource t cwd) := by
  obtain ⟨rfl, rfl, explored, listed⟩ := h
  cases left : w.tasks with
  | nil => simp [Walk.step, left] at stepped
  | cons task tasks =>
    rw [left] at explored listed
    simp only [Walk.step, left, Option.some.injEq] at stepped
    have files := perform_file? t { w with tasks := tasks } task
    have fine : ∀ p e,
        (Walk.perform t { w with tasks := tasks } task).1 ≠ some (.failed p e) := by
      rw [stepped]
      exact goes
    have next := perform_walk fine
    rw [stepped] at files next
    have known : done ++ (task :: tasks).filterMap file? =
        done ++ (file? task).toList ++ tasks.filterMap file? := by
      rw [List.append_assoc, List.filterMap_cons]
      cases file? task <;> rfl
    rw [known] at listed
    refine ⟨(file? task).toList, ?_, ?_⟩
    · dsimp only at next
      cases aim : target t w.cwd w.followLinks task with
      | none =>
        rw [aim] at next
        subst next
        exact ⟨rfl, rfl, explored.drop (by simp [aim]), listed⟩
      | some d =>
        rw [aim] at next
        dsimp only at next
        by_cases old : d ∈ w.seen
        · rw [if_pos old] at next
          subst next
          exact ⟨rfl, rfl, explored.drop (by simp [aim, old]), listed⟩
        · rw [if_neg old] at next
          subst next
          have entry : ∀ name ∈ t.names d, Entry t w.cwd (below (pathOf task) name) d name := by
            intro name mem
            exact explored.entry sound within aim old mem
          refine ⟨rfl, rfl, explored.expand sound within aim old, ?_⟩
          have isDir := (explored.gets task List.mem_cons_self d aim).directory_there
          refine (Listed.expand listed sound old isDir entry).perm ?_
          rw [List.filterMap_append, ← List.append_assoc, ← List.append_assoc]
          exact List.perm_append_comm.append_right _
    · have found : event.toList.filterMap WalkEvent.file? =
          (event.bind WalkEvent.file?).toList := by
        cases event with
        | none => rfl
        | some event => cases event <;> rfl
      rw [found, files, Option.toList_filter]

/-- A walk comes to an end where it has covered what it could, or where a file cannot be asked for.
What it finds is found up to there. -/
theorem Covered.finish (h : Covered t cwd root followLinks w done) (sound : t.Sound)
    (within : WithinLimit t cwd root) :
    ∃ v later, Covered t cwd root followLinks v (done ++ later) ∧ (w.last t).seen = v.seen ∧
      (w.finish t).filterMap WalkEvent.file? = later.filter (isSource t cwd) ∧
      (v.tasks = [] ∨ ∃ p e, .failed p e ∈ w.finish t) := by
  induction w using (wellFounded_step t).induction generalizing done with
  | h w ih =>
    cases ends : Walk.step t w with
    | none =>
      rw [last_of_end ends, finish_of_end ends]
      exact ⟨w, [], by rwa [List.append_nil], rfl, rfl, .inl (tasks_of_end ends)⟩
    | some next =>
      obtain ⟨event, v⟩ := next
      rw [last_of_step ends, finish_of_step ends]
      by_cases fails : ∃ p e, event = some (.failed p e)
      · obtain ⟨p, e, rfl⟩ := fails
        obtain ⟨_, _, _, rfl⟩ := step_failed ends
        have ended : Walk.step t { w with tasks := [] } = none := rfl
        rw [last_of_end ended, finish_of_end ended]
        exact ⟨w, [], by rwa [List.append_nil], rfl, rfl, .inr ⟨p, e, by simp⟩⟩
      · have goes : ∀ p e, event ≠ some (.failed p e) := by simpa using fails
        obtain ⟨now, covered, found⟩ := h.step sound within ends goes
        obtain ⟨u, later, covered, seen, found_later, way⟩ := ih v ⟨event, ends⟩ covered
        refine ⟨u, now ++ later, by rwa [← List.append_assoc], seen, ?_, ?_⟩
        · rw [List.filterMap_append, found, found_later, List.filter_append]
        · refine way.imp_right ?_
          rintro ⟨p, e, mem⟩
          exact ⟨p, e, List.mem_append_right _ mem⟩

/-- Where no link is too long, every file can be asked for. -/
theorem Covered.unbroken (h : Covered t cwd root followLinks w done) (sound : t.Sound)
    (within : WithinLimit t cwd root) (short : ShortLinks t) (p : Path) (e : FileError) :
    .failed p e ∉ w.finish t := by
  induction w using (wellFounded_step t).induction generalizing done with
  | h w ih =>
    cases ends : Walk.step t w with
    | none =>
      rw [finish_of_end ends]
      exact List.not_mem_nil
    | some next =>
      obtain ⟨event, v⟩ := next
      have goes : ∀ q e, event ≠ some (.failed q e) := by
        rintro q e rfl
        obtain ⟨isTask, _, asked, _⟩ := step_failed ends
        have listed : q ∈ done ++ w.tasks.filterMap file? :=
          List.mem_append_right _ (List.mem_filterMap.2 ⟨_, isTask, rfl⟩)
        obtain ⟨d, _, name, _, entry⟩ := h.listed.entries q listed
        exact entry.isFile_ne_error short e (h.starts ▸ asked)
      obtain ⟨now, covered, _⟩ := h.step sound within ends goes
      rw [finish_of_step ends, List.mem_append, not_or]
      exact ⟨by simpa [eq_comm] using goes p e, ih v ⟨event, ends⟩ covered⟩

/-! ## Whole walks -/

/-- The directories that a walk of a root lists, the last one first. -/
def expanded (t : FileTree) (cwd : Place) (root : Path) (followLinks : Bool) : List Place :=
  ((Walk.start cwd root followLinks).last t).seen

def filesFound (t : FileTree) (cwd : Place) (root : Path) (followLinks : Bool) : List Path :=
  (walk t cwd root followLinks).filterMap WalkEvent.file?

/-- A walk lists only directories that can be reached, and finds only what is sought in them, each
once. -/
structure Exact (t : FileTree) (cwd : Place) (root : Path) (followLinks : Bool) : Prop where
  once : (expanded t cwd root followLinks).Nodup
  reached : ∀ d ∈ expanded t cwd root followLinks, Reached t.node? cwd root followLinks d
  found_once : ((filesFound t cwd root followLinks).map (t.ownPlace cwd)).Nodup
  found : ∀ p ∈ filesFound t cwd root followLinks, ∃ d name,
    Reached t.node? cwd root followLinks d ∧ Sought t d name ∧
      t.ownPlace cwd p = .ok (d ++ [name])

/-- A walk lists the directories that can be reached, each once, and finds what is sought in them,
each once, and nothing else. -/
structure Complete (t : FileTree) (cwd : Place) (root : Path) (followLinks : Bool) : Prop
    extends Exact t cwd root followLinks where
  all_expanded : ∀ d, Reached t.node? cwd root followLinks d → d ∈ expanded t cwd root followLinks
  all_found : ∀ d name, Reached t.node? cwd root followLinks d → Sought t d name →
    ∃ p ∈ filesFound t cwd root followLinks, t.ownPlace cwd p = .ok (d ++ [name])

theorem Explored.mem_of_reached (h : Explored t cwd root followLinks seen [])
    (reached : Reached t.node? cwd root followLinks d) : d ∈ seen := by
  have ended : ∀ d, Due t cwd root followLinks seen d → d ∈ seen := by
    intro d due
    rcases h.complete d due with mem | ⟨task, mem, _⟩
    · exact mem
    · cases mem
  induction reached with
  | root leads dir => exact ended _ (.root leads dir)
  | sub _ opens ih => exact ended _ (.sub ih opens)

/-- Within the limits a walk lists only what can be reached and finds only what is sought there. -/
theorem exact_of_withinLimit (sound : t.Sound) (within : WithinLimit t cwd root)
    (followLinks : Bool) : Exact t cwd root followLinks := by
  obtain ⟨v, paths, ⟨-, -, explored, listed⟩, seen, found, -⟩ :=
    (covered_start t cwd root followLinks sound within).finish sound within
  have expanded_eq : expanded t cwd root followLinks = v.seen := seen
  have files : filesFound t cwd root followLinks = paths.filter (isSource t cwd) := found
  have listed_paths : ∀ p ∈ paths, p ∈ [] ++ paths ++ v.tasks.filterMap file? := by
    intro p mem
    exact List.mem_append_left _ mem
  constructor
  case once => exact expanded_eq ▸ explored.distinct
  case reached => exact expanded_eq ▸ explored.reached
  case found_once =>
    rw [files]
    have sub := (List.filter_sublist (p := isSource t cwd) (l := paths)).trans
      (List.sublist_append_left paths (v.tasks.filterMap file?))
    exact listed.once.sublist (sub.map _)
  case found =>
    intro p mem
    rw [files, List.mem_filter] at mem
    obtain ⟨d, seen, name, inside, entry⟩ := listed.entries p (listed_paths p mem.1)
    exact ⟨d, name, explored.reached d seen, (isSource_iff entry inside).1 mem.2, entry.own⟩

/-- If no file ends it, it leaves nothing out. -/
theorem complete_of_withinLimit (sound : t.Sound) (within : WithinLimit t cwd root)
    (unbroken : ∀ p e, .failed p e ∉ walk t cwd root followLinks) :
    Complete t cwd root followLinks := by
  obtain ⟨v, paths, ⟨-, -, explored, listed⟩, seen, found, way⟩ :=
    (covered_start t cwd root followLinks sound within).finish sound within
  have empty : v.tasks = [] := way.resolve_right fun ⟨p, e, mem⟩ => unbroken p e mem
  rw [empty] at explored listed
  rw [List.nil_append, List.filterMap_nil, List.append_nil] at listed
  have expanded_eq : expanded t cwd root followLinks = v.seen := seen
  have files : filesFound t cwd root followLinks = paths.filter (isSource t cwd) := found
  refine ⟨exact_of_withinLimit sound within followLinks, ?all_expanded, ?all_found⟩
  case all_expanded => exact fun d reached => expanded_eq ▸ explored.mem_of_reached reached
  case all_found =>
    intro d name reached sought
    rw [files]
    rcases listed.all d (explored.mem_of_reached reached) name sought.listed with dir | found
    · exact absurd dir sought.not_directory
    · obtain ⟨p, mem, entry⟩ := found
      have isSource := (isSource_iff entry sought.listed).2 sought
      exact ⟨p, List.mem_filter.2 ⟨mem, isSource⟩, entry.own⟩

/-- No file that a walk comes to ends it. -/
def Unbroken (t : FileTree) (cwd : Place) (root : Path) (followLinks : Bool) : Prop :=
  ∀ p e, .failed p e ∉ walk t cwd root followLinks

/-- Every walk ends. If a path may be long enough and meet enough links, a walk lists only
directories that can be reached and finds only files that are sought in them, each once. It lists
and finds all of them unless it is broken, and only a link with a name that is too long breaks it:
then it cannot be told whether a file that is supported is one. What a walk comes upon does not
depend on the order in which nodes are listed. -/
theorem walk_complete (t : FileTree) (sound : t.Sound) (cwd : Place) (root : Path)
    (followLinks : Bool) :
    (WellFounded fun v w => ∃ event, Walk.step t w = some (event, v)) ∧
    (∃ bound, ∀ links ≥ bound, ∀ size ≥ bound,
      let u : FileTree := { t with maxLinks := links, maxSize := size }
      Exact u cwd root followLinks ∧
      (Unbroken u cwd root followLinks → Complete u cwd root followLinks) ∧
      (ShortLinks t → Unbroken u cwd root followLinks)) ∧
    (∀ p e, .failed p e ∈ walk t cwd root followLinks → (Format.ofPath? p).isSome = true ∧
      e = .nameTooLong ∧ t.place cwd p = .error .nameTooLong) ∧
    ∀ u, Reordered u t → walk u cwd root followLinks = walk t cwd root followLinks := by
  refine ⟨wellFounded_step t, ?_, fun p e mem => ?_, fun u same => same.finish_eq sound _⟩
  · obtain ⟨bound, few⟩ := exists_bound t cwd root t.directories.length
    refine ⟨bound, fun links links_above size size_above => ?_⟩
    intro u
    have sound' : u.Sound := ⟨sound.distinct, sound.named⟩
    have within : WithinLimit u cwd root := by
      intro p rooted
      obtain ⟨fits, few_links⟩ := few p rooted
      exact ⟨fits.trans size_above, fun n q leads => (few_links n q leads).trans links_above⟩
    refine ⟨exact_of_withinLimit sound' within followLinks,
      complete_of_withinLimit sound' within, fun short => ?_⟩
    exact (covered_start u cwd root followLinks sound' within).unbroken sound' within short
  · obtain ⟨supported, fails⟩ := failed_of_mem_finish mem
    exact ⟨supported, isFile_eq_error_iff.1 fails⟩

/-- A library of one directory, with a book in it and a link back up. -/
def loopTree : FileTree where
  nodes := [([['l']], .directory), ([['l'], ['d']], .directory),
    ([['l'], ['d'], "a.epub".toList], .file []), ([['l'], ['d'], ['u']], .link ['.', '.'])]
  maxLinks := 40
  maxSize := 4095

/-- The directory is listed, and the book in it is all that is found, although there are paths of
any length to both. -/
theorem walk_complete_loopTree : loopTree.Sound ∧
    ∃ bound, ∀ links ≥ bound, ∀ size ≥ bound,
      let u : FileTree := { loopTree with maxLinks := links, maxSize := size }
      [['l'], ['d']] ∈ expanded u [] ⟨1, [['l']]⟩ true ∧
      ∃ p, filesFound u [] ⟨1, [['l']]⟩ true = [p] ∧
        u.ownPlace [] p = .ok [['l'], ['d'], "a.epub".toList] := by
  have sound : loopTree.Sound := ⟨by decide, by decide⟩
  have short : ShortLinks loopTree := by
    intro place target link
    have below : place ≠ [] := by
      rintro rfl
      cases link
    have mem := (node?_eq_some_iff sound below).1 link
    simp only [loopTree, List.mem_cons, Prod.mk.injEq, reduceCtorEq, and_false, false_or,
      List.not_mem_nil, or_false, FileNode.link.injEq] at mem
    rw [mem.2]
    decide
  have start : Leads loopTree.node? 0 [] [['l']] [['l']] :=
    .enter rfl (by decide) nofun (.here _)
  have reached : Reached loopTree.node? [] ⟨1, [['l']]⟩ true [['l'], ['d']] :=
    .sub (.root start rfl) (.directory rfl)
  have book : Leads loopTree.node? 0 [['l'], ['d']] ["a.epub".toList]
      [['l'], ['d'], "a.epub".toList] :=
    .enter rfl (by decide) nofun (.here _)
  have sought : Sought loopTree [['l'], ['d']] "a.epub".toList :=
    ⟨by decide, by decide, _, ⟨0, book⟩, rfl⟩
  obtain ⟨-, ⟨bound, all⟩, -⟩ := walk_complete loopTree sound [] ⟨1, [['l']]⟩ true
  refine ⟨sound, bound, fun links links_above size size_above => ?_⟩
  obtain ⟨-, complete, unbroken⟩ := all links links_above size size_above
  have complete := complete (unbroken short)
  have only : ∀ d name, Sought loopTree d name →
      d ++ [name] = [['l'], ['d'], "a.epub".toList] := by
    intro d name sought
    obtain ⟨node, stands⟩ := (mem_names_iff sound).1 sought.listed
    have mem := (node?_eq_some_iff sound (List.concat_ne_nil name d)).1 stands
    have last : (d ++ [name]).getLast? = some name := by simp
    have supported := sought.supported
    simp only [loopTree, List.mem_cons, Prod.mk.injEq, List.not_mem_nil, or_false] at mem
    rcases mem with ⟨at_d, -⟩ | ⟨at_d, -⟩ | ⟨at_d, -⟩ | ⟨at_d, -⟩
    · rw [at_d] at last
      cases last
      exact absurd supported (by decide)
    · rw [at_d] at last
      cases last
      exact absurd supported (by decide)
    · exact at_d
    · rw [at_d] at last
      cases last
      exact absurd supported (by decide)
  refine ⟨complete.all_expanded _ reached, ?_⟩
  obtain ⟨p, mem, own⟩ := complete.all_found _ _ reached ⟨sought.1, sought.2, sought.3⟩
  have once := complete.found_once
  rw [List.map_congr_left (g := fun _ => .ok [['l'], ['d'], "a.epub".toList]), List.map_const',
    List.nodup_replicate] at once
  swap
  · intro q found
    obtain ⟨d, name, _, other, there⟩ := complete.found q found
    rw [there, only d name ⟨other.1, other.2, other.3⟩]
  obtain ⟨q, files⟩ := List.length_eq_one_iff.1
    (Nat.le_antisymm once (List.length_pos_of_mem mem))
  rw [files, List.mem_singleton] at mem
  exact ⟨p, mem ▸ files, own⟩

/-- A library of one book, and of a link whose target is too long for a name. -/
def brokenTree : FileTree where
  nodes := [([['w']], .directory), ([['w'], "a.epub".toList], .link longName),
    ([['w'], "b.epub".toList], .file [])]
  maxLinks := 40
  maxSize := 4095

/-- The link ends the walk before it comes to the book. -/
theorem walk_brokenTree : brokenTree.Sound ∧ Sought brokenTree [['w']] "b.epub".toList ∧
    walk brokenTree [] ⟨1, [['w']]⟩ true =
      [.failed ⟨1, [['w'], "a.epub".toList]⟩ .nameTooLong] := by
  have sound : brokenTree.Sound := ⟨by decide, by decide⟩
  have sought : Sought brokenTree [['w']] "b.epub".toList :=
    ⟨by decide, by decide, _, ⟨0, .enter rfl (by decide) nofun (.here _)⟩, rfl⟩
  have start : Leads brokenTree.node? 0 [] [['w']] [['w']] :=
    .enter rfl (by decide) nofun (.here _)
  have listed : listable brokenTree [] ⟨1, [['w']]⟩ = .ok [['w']] :=
    (listable_eq_ok_iff sound).2 ⟨place_eq_ok_iff.2 ⟨by decide, 0, by decide, start⟩, rfl⟩
  have behind : brokenTree.place [] (below ⟨1, [['w']]⟩ "a.epub".toList) = .error .nameTooLong :=
    (start.followPath_below (by decide) (by decide) true).trans
      (follow_long_link rfl (by decide) rfl slash_not_mem_longName isLong_longName)
  have tasks : ∀ w : Walk, w.cwd = [] → tasksOf brokenTree w ⟨1, [['w']]⟩ [['w']] =
      [.file ⟨1, [['w'], "a.epub".toList]⟩, .file ⟨1, [['w'], "b.epub".toList]⟩] := by
    intro w cwd
    have names : brokenTree.names [['w']] = ["a.epub".toList, "b.epub".toList] := by decide
    have isLink : leadsIn brokenTree [] ⟨1, [['w']]⟩ [['w']] "a.epub".toList = false := by
      have notFound : brokenTree.find [] (below ⟨1, [['w']]⟩ "a.epub".toList) =
          .error .nameTooLong := by
        rw [FileTree.find, behind]
        rfl
      have link : brokenTree.node? ([['w']] ++ ["a.epub".toList]) =
          some (.link longName) := rfl
      rw [leadsIn, link]
      simp only [notFound]
      rfl
    have isBook : leadsIn brokenTree [] ⟨1, [['w']]⟩ [['w']] "b.epub".toList = false := rfl
    rw [tasksOf, names, cwd, List.mergeSort_of_pairwise (by decide)]
    simp only [List.filter_cons, List.filter_nil, isLink, isBook]
    rfl
  refine ⟨sound, sought, ?_⟩
  have entered : Walk.step brokenTree (.start [] ⟨1, [['w']]⟩ true) =
      some (none, ⟨[], true, [[['w']]],
        [.file ⟨1, [['w'], "a.epub".toList]⟩, .file ⟨1, [['w'], "b.epub".toList]⟩]⟩) := by
    simp [Walk.step, Walk.start, perform, enter, listed, tasks]
  have failed : Walk.step brokenTree ⟨[], true, [[['w']]],
        [.file ⟨1, [['w'], "a.epub".toList]⟩, .file ⟨1, [['w'], "b.epub".toList]⟩]⟩ =
      some (some (.failed ⟨1, [['w'], "a.epub".toList]⟩ .nameTooLong),
        ⟨[], true, [[['w']]], []⟩) := by
    have supported : Format.ofPath? ⟨1, [['w'], "a.epub".toList]⟩ = some .epub := by decide
    have asked : brokenTree.isFile [] ⟨1, [['w'], "a.epub".toList]⟩ = .error .nameTooLong :=
      isFile_eq_error_iff.2 ⟨rfl, behind⟩
    simp only [Walk.step, perform, supported, asked]
    rfl
  rw [walk, finish_of_step entered, finish_of_step failed, finish_of_end rfl]
  rfl

end EpubLibrary.Walk
