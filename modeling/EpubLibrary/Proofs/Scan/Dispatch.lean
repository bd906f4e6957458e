import EpubLibrary.Proofs.Scan.Fate

/-!
# Dispatching files

A `Turn` is one thing that the loop of a scan can do that is not cancelled. What preparing a file
gives and what the store answers is left open, so the turns are those of every outcome. `Accounted`
says where every file stands that was taken.
-/

namespace EpubLibrary

/-- Can a prepared file be collected with this verdict? What becomes of a record is up to the
store. -/
inductive Prepared.Possible : Prepared → Verdict → Prop where
  | unchanged : Possible .unchanged .kept
  | failed {cause : FailureCause} : Possible (.failed cause) (.failed cause)
  | imported {r : BookRecord} : Possible (.record r) (.imported r)
  | held {r : BookRecord} : Possible (.record r) .kept
  | collided {r : BookRecord} {c : Collision} :
      Possible (.record r) (.failed (.collision c (Epub.declared r.book.identifier)))

theorem Judged.possible {s t : Store} {c : Collected} (h : Judged s c t) :
    c.prepared.Possible c.verdict := by
  cases h with
  | unchanged => exact .unchanged
  | failed => exact .failed
  | imported answer => exact .imported
  | held answer => exact .held
  | collided answer => exact .collided

namespace ScanLoop

/-- One turn of the loop with at most `limit` files in flight. Those in `ready` are the ones that
the last wait found finished. -/
inductive Turn (limit : Nat) : ScanLoop → ScanLoop → Prop where
  | take {l : ScanLoop} (collected : l.ready = []) (room : l.inFlight < limit)
      (left : l.waiting ≠ []) : Turn limit l (l.fill (l.inFlight + 1))
  | wait {l : ScanLoop} {finished : List (Source × Prepared)} {rest : List Source}
      {r : Reconciler} (collected : l.ready = []) (full : l.waiting = [] ∨ limit ≤ l.inFlight)
      (some_file : finished ≠ []) (split : l.running.Perm (finished.map (·.1) ++ rest)) :
      Turn limit l { l with running := rest, ready := finished, reconciler := r }
  | collect {l : ScanLoop} {i : Nat} {f : Source} {prepared : Prepared} {verdict : Verdict}
      {s : Store} {n : Nat} (found : l.ready[i]? = some (f, prepared))
      (possible : prepared.Possible verdict) :
      Turn limit l ({ l with ready := l.ready.eraseIdx i, store := s, imports := n }.note f verdict)

abbrev Turns (limit : Nat) : ScanLoop → ScanLoop → Prop := Relation.ReflTransGen (Turn limit)

def pending (l : ScanLoop) : List Source := l.running ++ l.ready.map (·.1)

theorem length_pending (l : ScanLoop) : l.pending.length = l.inFlight := by
  simp [pending, inFlight]

/-- Where the walked files stand: not yet taken, in flight, or collected with one of three
verdicts. -/
structure Accounted (files : List Source) (l : ScanLoop)
    (taken imported unchanged failed : List Source) : Prop where
  walked : files = taken ++ l.waiting
  groups : taken.Perm (l.pending ++ (imported ++ unchanged ++ failed))
  imported : l.summary.imported.length = imported.length
  unchanged : l.summary.unchanged = unchanged.length
  failed : l.summary.failed.map (·.path) = failed.map (·.path)

section
variable {limit : Nat} {held : DigestSet} {s : Store} {l m : ScanLoop}
  {files taken imported unchanged failed : List Source}

/-- Every file that was taken is in flight or was counted. -/
theorem Accounted.total (h : Accounted files l taken imported unchanged failed) :
    taken.length = l.inFlight + l.summary.imported.length + l.summary.unchanged +
      l.summary.failed.length := by
  have reported := congrArg List.length h.failed
  rw [List.length_map, List.length_map] at reported
  rw [h.groups.length_eq, h.imported, h.unchanged, reported, ← length_pending]
  simp only [List.length_append]
  omega

theorem accounted_start (held : DigestSet) (s : Store) (files : List Source) :
    Accounted files (start held s files) [] [] [] [] :=
  ⟨rfl, .nil, rfl, rfl, rfl⟩

theorem Accounted.take (h : Accounted files l taken imported unchanged failed) (n : Nat) :
    ∃ more, Accounted files (l.fill n) (taken ++ more) imported unchanged failed := by
  refine ⟨l.waiting.take (n - l.inFlight), ?_, ?_, h.imported, h.unchanged, h.failed⟩
  · simp only [fill, List.append_assoc, List.take_append_drop]
    exact h.walked
  · have grown : (l.pending ++ l.waiting.take (n - l.inFlight)).Perm (l.fill n).pending := by
      simp only [pending, fill, List.append_assoc]
      exact List.perm_append_comm.append_left _
    refine (h.groups.append_right _).trans ?_
    rw [List.append_assoc]
    refine (List.perm_append_comm.append_left _).trans ?_
    rw [← List.append_assoc]
    exact grown.append_right _

theorem Accounted.wait (h : Accounted files l taken imported unchanged failed)
    {finished : List (Source × Prepared)} {rest : List Source} (r : Reconciler)
    (collected : l.ready = []) (split : l.running.Perm (finished.map (·.1) ++ rest)) :
    Accounted files { l with running := rest, ready := finished, reconciler := r } taken imported
      unchanged failed := by
  have same : l.pending.Perm (rest ++ finished.map (·.1)) := by
    rw [pending, collected, List.map_nil, List.append_nil]
    exact split.trans List.perm_append_comm
  exact ⟨h.walked, h.groups.trans (same.append_right _), h.imported, h.unchanged, h.failed⟩

/-- A file that is collected goes from those in flight to one of the three groups. -/
theorem Accounted.collect (h : Accounted files l taken imported unchanged failed) {i : Nat}
    {f : Source} {prepared : Prepared} (found : l.ready[i]? = some (f, prepared)) (s : Store)
    (n : Nat) (verdict : Verdict) :
    ∃ imported unchanged failed, Accounted files
      ({ l with ready := l.ready.eraseIdx i, store := s, imports := n }.note f verdict) taken
      imported unchanged failed := by
  obtain ⟨inside, at_i⟩ := List.getElem?_eq_some_iff.1 found
  have moved : l.pending.Perm (l.running ++ (l.ready.eraseIdx i).map (·.1) ++ [f]) := by
    have erased := (List.getElem_cons_eraseIdx_perm inside).map (·.1)
    rw [at_i, List.map_cons] at erased
    rw [List.append_assoc]
    exact (erased.symm.trans (List.perm_append_singleton _ _).symm).append_left _
  have groups := h.groups.trans (moved.append_right _)
  rw [List.append_assoc] at groups
  cases verdict with
  | kept =>
    refine ⟨imported, unchanged ++ [f], failed, h.walked, groups.trans ?_, h.imported, ?_,
      h.failed⟩
    · refine List.Perm.append_left _ ?_
      rw [← List.append_assoc imported, List.append_assoc _ [f], List.singleton_append,
        List.singleton_append]
      exact List.perm_middle.symm
    · simp [note, keep, h.unchanged]
  | imported r =>
    refine ⟨imported ++ [f], unchanged, failed, h.walked, groups.trans ?_, ?_, h.unchanged,
      h.failed⟩
    · refine List.Perm.append_left _ ?_
      simp only [List.append_assoc, List.singleton_append]
      exact List.perm_middle.symm
    · simp [note, h.imported]
  | failed cause =>
    refine ⟨imported, unchanged, failed ++ [f], h.walked, groups.trans ?_, h.imported,
      h.unchanged, ?_⟩
    · refine List.Perm.append_left _ ?_
      rw [← List.append_assoc _ failed]
      exact List.perm_append_comm
    · simp [note, fail, h.failed]

/-- Every turn keeps the account. -/
theorem Accounted.turn (h : Accounted files l taken imported unchanged failed)
    (turn : Turn limit l m) :
    ∃ taken imported unchanged failed, Accounted files m taken imported unchanged failed := by
  cases turn with
  | take collected room left =>
    obtain ⟨more, grown⟩ := h.take (l.inFlight + 1)
    exact ⟨_, _, _, _, grown⟩
  | wait collected full some_file split => exact ⟨_, _, _, _, h.wait _ collected split⟩
  | collect found possible => exact ⟨taken, h.collect found _ _ _⟩

/-- What a turn does to the numbers of files that are waiting, running and ready. -/
theorem Turn.numbers (turn : Turn limit l m) :
    (m.waiting.length + 1 = l.waiting.length ∧ m.running.length = l.running.length + 1 ∧
      m.ready.length = l.ready.length ∧ l.inFlight < limit) ∨
    (m.waiting.length = l.waiting.length ∧ 0 < m.ready.length ∧ l.ready.length = 0 ∧
      m.running.length + m.ready.length = l.running.length) ∨
    (m.waiting.length = l.waiting.length ∧ m.running.length = l.running.length ∧
      m.ready.length + 1 = l.ready.length) := by
  cases turn with
  | take collected room left =>
    have some_file : 0 < l.waiting.length := List.length_pos_iff.2 left
    refine .inl ⟨?_, ?_, rfl, room⟩
    · simp only [fill, List.length_drop]
      omega
    · simp only [fill, List.length_append, List.length_take]
      omega
  | wait collected full some_file split =>
    have parts := split.length_eq
    rw [List.length_append, List.length_map] at parts
    refine .inr (.inl ⟨rfl, List.length_pos_iff.2 some_file, ?_, ?_⟩)
    · rw [collected, List.length_nil]
    · dsimp only
      omega
  | @collect i f _ verdict s n found possible =>
    obtain ⟨inside, _⟩ := List.getElem?_eq_some_iff.1 found
    obtain ⟨waiting, running, ready, _⟩ :=
      note_frame { l with ready := l.ready.eraseIdx i, store := s, imports := n } f verdict
    refine .inr (.inr ⟨by rw [waiting], by rw [running], ?_⟩)
    rw [ready, List.length_eraseIdx_of_lt inside]
    omega

/-- No turn leaves more files in flight than are allowed. -/
theorem Turn.inFlight_le (turn : Turn limit l m) (h : l.inFlight ≤ limit) :
    m.inFlight ≤ limit := by
  unfold inFlight at h ⊢
  rcases turn.numbers with ⟨_, running, ready, room⟩ | ⟨_, _, _, running⟩ |
    ⟨_, running, ready⟩
  · rw [inFlight] at room
    omega
  · omega
  · omega

/-- Every turn leaves less to do. -/
theorem Turn.work_decreases (turn : Turn limit l m) : m.work < l.work := by
  unfold work
  rcases turn.numbers with ⟨waiting, running, ready, _⟩ | ⟨waiting, some_file, _, running⟩ |
    ⟨waiting, running, ready⟩ <;> omega

/-- The loop goes on until no file is left, whatever the units and commits come to. -/
theorem exists_turn (positive : 0 < limit) (l : ScanLoop) : l.IsDone ∨ ∃ m, Turn limit l m := by
  cases ready : l.ready with
  | cons x more =>
    obtain ⟨f, prepared⟩ := x
    have found : l.ready[0]? = some (f, prepared) := by
      rw [ready]
      rfl
    obtain ⟨verdict, possible⟩ : ∃ verdict, prepared.Possible verdict := by
      cases prepared with
      | unchanged => exact ⟨_, .unchanged⟩
      | failed cause => exact ⟨_, .failed⟩
      | record r => exact ⟨_, .held⟩
    exact .inr ⟨_, .collect (s := l.store) (n := l.imports) found possible⟩
  | nil =>
    by_cases more : l.waiting ≠ [] ∧ l.inFlight < limit
    · exact .inr ⟨_, .take ready more.2 more.1⟩
    · have full : l.waiting = [] ∨ limit ≤ l.inFlight := by
        by_cases left : l.waiting = []
        · exact .inl left
        · exact .inr (Nat.not_lt.1 fun room => more ⟨left, room⟩)
      cases running : l.running with
      | cons f rest =>
        have split : l.running.Perm ([(f, Prepared.unchanged)].map (·.1) ++ rest) := by
          rw [running]
          rfl
        exact .inr ⟨_, .wait (r := l.reconciler) ready full (by simp) split⟩
      | nil =>
        have empty : l.inFlight = 0 := by simp [inFlight, running, ready]
        exact .inl ⟨full.resolve_right (by omega), running, ready⟩

theorem IsDone.no_turn (done : l.IsDone) : ¬ Turn limit l m := by
  obtain ⟨waiting, running, ready⟩ := done
  intro turn
  have less := turn.work_decreases
  simp [work, waiting, running, ready] at less

/-- What the turns of a loop have in common. -/
theorem turns_account (turns : Turns limit (start held s files) l) :
    (∃ taken imported unchanged failed, Accounted files l taken imported unchanged failed) ∧
      l.inFlight ≤ limit := by
  induction turns with
  | refl => exact ⟨⟨_, _, _, _, accounted_start held s files⟩, Nat.zero_le _⟩
  | tail _ turn ih =>
    obtain ⟨⟨_, _, _, _, account⟩, room⟩ := ih
    exact ⟨account.turn turn, turn.inFlight_le room⟩

/-- A loop takes at most as many turns as there is work for it. -/
theorem turns_le_work {states : Nat → ScanLoop} {n : Nat}
    (turns : ∀ i < n, Turn limit (states i) (states (i + 1))) :
    (states n).work + n ≤ (states 0).work := by
  induction n with
  | zero => exact Nat.le_refl _
  | succ n ih =>
    have before := ih fun i hi => turns i (by omega)
    have less := (turns n (Nat.lt_succ_self n)).work_decreases
    omega

end

/-! ## Runs -/

/-- Taking files one by one until no more may be in flight. -/
theorem fill_turns {limit : Nat} {l : ScanLoop} (collected : l.ready = []) :
    Turns limit l (l.fill limit) := by
  induction length : l.waiting.length generalizing l with
  | zero =>
    have waiting := List.length_eq_zero_iff.1 length
    have same : l.fill limit = l := by
      rw [fill, waiting, List.drop_nil, List.take_nil, List.append_nil, ← waiting]
    rw [same]
  | succ n ih =>
    by_cases room : l.inFlight < limit
    · have left : l.waiting ≠ [] := by
        intro waiting
        rw [waiting] at length
        cases length
      have rest : (l.fill (l.inFlight + 1)).fill limit = l.fill limit := by
        have one : (l.waiting.take 1).length = 1 := by
          rw [List.length_take]
          omega
        have parts : limit - l.inFlight = 1 + (limit - (l.inFlight + 1)) := by omega
        have more : (l.fill (l.inFlight + 1)).inFlight = l.inFlight + 1 := by
          simp only [fill, inFlight, Nat.add_sub_cancel_left, List.length_append, one]
          omega
        simp only [fill, Nat.add_sub_cancel_left] at more ⊢
        rw [more, parts, List.take_add, List.drop_drop, List.append_assoc]
      have fewer : (l.fill (l.inFlight + 1)).waiting.length = n := by
        simp only [fill, List.length_drop]
        omega
      rw [← rest]
      exact .head (.take collected room left) (ih collected fewer)
    · have same : l.fill limit = l := by
        simp [fill, Nat.sub_eq_zero_of_le (Nat.not_lt.1 room)]
      rw [same]

theorem fill_full (limit : Nat) (l : ScanLoop) :
    (l.fill limit).waiting = [] ∨ limit ≤ (l.fill limit).inFlight := by
  by_cases few : l.waiting.length ≤ limit - l.inFlight
  · exact .inl (List.drop_eq_nil_of_le few)
  · refine .inr ?_
    have grown : (l.fill limit).inFlight = l.inFlight + (limit - l.inFlight) := by
      simp only [fill, inFlight, List.length_append, List.length_take] at few ⊢
      omega
    omega

/-- Preparing all files at once is one outcome of a wait. -/
theorem prepareAll_eq (settings : ScanSettings) (count : Nat) (l : ScanLoop)
    (h : l.running.length = count) :
    ∃ (finished : List (Source × Prepared)) (r : Reconciler), finished.map (·.1) = l.running ∧
      prepareAll settings count l =
        { l with running := [], ready := l.ready ++ finished, reconciler := r } := by
  induction count generalizing l with
  | zero =>
    have running := List.length_eq_zero_iff.1 h
    refine ⟨[], l.reconciler, running.symm, ?_⟩
    rw [prepareAll, List.append_nil, ← running]
  | succ count ih =>
    match running : l.running, h with
    | f :: rest, h =>
      have eq := prepareAt_eq settings (l := l) (i := 0) (by rw [running]; rfl)
      rw [running, List.eraseIdx_zero, List.tail_cons] at eq
      obtain ⟨finished, r, same, all⟩ := ih (l.prepareAt settings 0) (by
        rw [eq]
        exact Nat.succ.inj h)
      rw [eq] at same all
      exact ⟨(f, _) :: finished, r, congrArg (f :: ·) same, by
        rw [prepareAll, eq, all, List.append_assoc]
        rfl⟩

theorem prepareAll_turn (settings : ScanSettings) {l : ScanLoop} (collected : l.ready = [])
    (full : l.waiting = [] ∨ limit settings ≤ l.inFlight) (some_file : l.running ≠ []) :
    Turn (limit settings) l (prepareAll settings l.running.length l) ∧
      (prepareAll settings l.running.length l).running = [] := by
  obtain ⟨finished, r, same, all⟩ := prepareAll_eq settings _ l rfl
  rw [collected, List.nil_append] at all
  rw [all]
  refine ⟨.wait collected full ?_ ?_, rfl⟩
  · rintro rfl
    exact some_file same.symm
  · rw [same, List.append_nil]

/-- Collecting a file that does not abort the scan is a turn. -/
theorem collectAt_turn {limit : Nat} {l : ScanLoop} {i : Nat} (inside : i < l.ready.length)
    (fine : (l.collectAt i).1 = none) : Turn limit l (l.collectAt i).2 := by
  have found := List.getElem?_eq_getElem inside
  generalize l.ready[i] = x at found
  obtain ⟨f, prepared⟩ := x
  rw [collectAt_eq found] at fine ⊢
  obtain ⟨verdict, t, n, judged, eq⟩ := judge_eq_note fine
  rw [eq]
  exact .collect found judged.possible

theorem collectAll_turns (limit count : Nat) (l : ScanLoop) (h : l.ready.length = count)
    (fine : (collectAll count l).1 = none) :
    Turns limit l (collectAll count l).2 ∧ (collectAll count l).2.ready = [] ∧
      (collectAll count l).2.running = l.running ∧
      (collectAll count l).2.waiting = l.waiting := by
  induction count generalizing l with
  | zero => exact ⟨.refl, List.length_eq_zero_iff.1 h, rfl, rfl⟩
  | succ count ih =>
    have prepared : 0 < l.ready.length := by omega
    obtain ⟨waiting, running, ready, _⟩ := l.collectAt_frame 0
    cases answer : l.collectAt 0 with
    | mk error m =>
      simp only [collectAll, answer] at fine ⊢
      cases error with
      | some e => cases fine
      | none =>
        have turn : Turn limit l (l.collectAt 0).2 := collectAt_turn prepared (by rw [answer])
        rw [answer] at turn waiting running ready
        have shorter : m.ready.length = count := by
          rw [ready, List.length_eraseIdx_of_lt prepared]
          omega
        obtain ⟨turns, none_left, same, same'⟩ := ih m shorter fine
        exact ⟨.head turn turns, none_left, same.trans running, same'.trans waiting⟩

/-- The rounds of a run are turns, and end with no file in flight. -/
theorem rounds_turns (settings : ScanSettings) (fuel : Nat) (l : ScanLoop)
    (running : l.running = []) (ready : l.ready = [])
    (fine : (rounds settings none fuel l).1 = none) :
    Turns (limit settings) l (rounds settings none fuel l).2 := by
  induction fuel generalizing l with
  | zero => exact .refl
  | succ fuel ih =>
    rw [rounds] at fine ⊢
    split
    · exact .refl
    · rename_i goes
      rw [if_neg goes] at fine
      have left : l.waiting ≠ [] := by
        rintro waiting
        simp [waiting] at goes
      have takes : Turns (limit settings) l (l.fill (limit settings)) := fill_turns ready
      have full := fill_full (limit settings) l
      have some_file : (l.fill (limit settings)).running ≠ [] := by
        have taken : 0 < l.waiting.length := List.length_pos_iff.2 left
        have positive := limit_pos settings
        refine List.ne_nil_of_length_pos ?_
        simp only [fill, inFlight, running, ready, List.length_append, List.length_take,
          List.length_nil]
        omega
      have collected : (l.fill (limit settings)).ready = [] := ready
      dsimp only at fine ⊢
      generalize l.fill (limit settings) = filled at *
      obtain ⟨waits, none_running⟩ := prepareAll_turn settings collected full some_file
      generalize prepareAll settings filled.running.length filled = prepared at *
      cases answer : collectAll prepared.ready.length prepared with
      | mk error k =>
        rw [answer] at fine
        cases error with
        | some e => cases fine
        | none =>
          obtain ⟨collects, ready, running, _⟩ :=
            collectAll_turns (limit settings) _ prepared rfl (by rw [answer])
          rw [answer] at collects ready running
          have rest := ih k (running.trans none_running) ready fine
          exact (takes.tail waits).trans (collects.trans rest)

/-- An uncancelled scan that is not aborted goes through turns of the loop to its end. -/
theorem run_turns {settings : ScanSettings} {held : DigestSet} {s s' : Store}
    {files : List Source} {summary : ScanSummary}
    (h : scanSources settings none held s files = (.ok summary, s')) :
    ∃ l, Turns (limit settings) (start held s files) l ∧ l.IsDone ∧ summary = l.report none ∧
      s' = l.store := by
  obtain ⟨l, ended, _, done, report, store⟩ := run_of_ok h
  have goes : ((start held s files).run settings none).1 = none →
      Turns (limit settings) (start held s files) ((start held s files).run settings none).2 :=
    rounds_turns settings _ _ rfl rfl
  rw [ended] at goes
  exact ⟨l, goes rfl, done, report, store⟩

/-! ## The account -/

/-- Whatever the units and commits come to and however many files each wait finds finished: in every
state of the loop each file that was taken is in flight, imported, unchanged or failed, and at most
two files for each worker are in flight. The loop does not stop before every file is collected, and
it takes at most three turns for each. A scan that is not aborted is such a loop. -/
theorem dispatch_accounts (settings : ScanSettings) (held : DigestSet) (s : Store)
    (files : List Source) :
    (∀ l, Turns (limit settings) (start held s files) l →
      (∃ taken imported unchanged failed, Accounted files l taken imported unchanged failed ∧
        taken.length = l.inFlight + l.summary.imported.length + l.summary.unchanged +
          l.summary.failed.length) ∧
      l.inFlight ≤ 2 * settings.scanWorkers.toNat ∧
      ((∀ m, ¬ Turn (limit settings) l m) → l.IsDone ∧ l.summary.imported.length +
        l.summary.unchanged + l.summary.failed.length = files.length)) ∧
    (∀ (states : Nat → ScanLoop) (n : Nat), states 0 = start held s files →
      (∀ i < n, Turn (limit settings) (states i) (states (i + 1))) → n ≤ 3 * files.length) ∧
    ∀ summary s', scanSources settings none held s files = (.ok summary, s') →
      ∃ l, Turns (limit settings) (start held s files) l ∧ l.IsDone ∧
        summary = l.report none ∧ s' = l.store := by
  refine ⟨fun l turns => ?_, fun states n first turns => ?_, fun _ _ => run_turns⟩
  · obtain ⟨⟨taken, imported, unchanged, failed, account⟩, room⟩ := turns_account turns
    refine ⟨⟨taken, imported, unchanged, failed, account, account.total⟩, room, fun stuck => ?_⟩
    have done : l.IsDone := (exists_turn (limit_pos settings) l).resolve_right fun ⟨m, turn⟩ =>
      stuck m turn
    obtain ⟨waiting, running, ready⟩ := done
    have all := account.walked
    rw [waiting, List.append_nil] at all
    have total := account.total
    rw [inFlight, running, ready, ← all] at total
    exact ⟨⟨waiting, running, ready⟩, by simpa using total.symm⟩
  · have enough := turns_le_work turns
    simp only [first, work, start, List.length_nil] at enough
    omega

/-- The loop over two files with one book and one file without, by four workers. -/
theorem dispatch_accounts_leafFiles : ∃ l,
    Turns (limit (leafSettings 4)) (start shelf.tables.contentHashes shelf leafFiles) l ∧
    (∃ taken imported unchanged failed,
      Accounted leafFiles l taken imported unchanged failed) ∧ l.inFlight ≤ 8 ∧ l.IsDone ∧
    l.summary.imported.length = 1 ∧ l.summary.unchanged = 1 ∧ l.summary.failed.length = 1 := by
  obtain ⟨account, _, runs⟩ := dispatch_accounts (leafSettings 4) shelf.tables.contentHashes shelf
    leafFiles
  obtain ⟨m, ⟨imported, unchanged, failed, _⟩, ended⟩ := (settles_leafFiles 4).scanSources
  obtain ⟨l, turns, done, report, _⟩ := runs _ _ ended
  rw [report] at imported unchanged failed
  obtain ⟨⟨taken, imports, kept, failures, accounted, _⟩, room, _⟩ := account l turns
  exact ⟨l, turns, ⟨taken, imports, kept, failures, accounted⟩, room, done, imported, unchanged,
    failed⟩

end ScanLoop
end EpubLibrary
