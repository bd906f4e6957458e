import EpubLibrary.Scan.Loop
import EpubLibrary.Proofs.Results
import Mathlib.Logic.Relation

/-!
# Orders of a scan

`ScanLoop.Step` is one thing that can happen next in a scan that is not cancelled. How many files
may be in flight is left open, so the orders of any number of workers are among its orders.
-/

namespace EpubLibrary.ScanLoop

variable {settings : ScanSettings}

def IsDone (l : ScanLoop) : Prop := l.waiting = [] ∧ l.running = [] ∧ l.ready = []

/-- One step of a scan under the settings. -/
inductive Step (settings : ScanSettings) : ScanLoop → ScanLoop → Prop where
  | take {l : ScanLoop} {n : Nat} (room : l.inFlight < n) (left : l.waiting ≠ []) :
      Step settings l (l.fill n)
  | prepare {l : ScanLoop} {i : Nat} (taken : i < l.running.length) :
      Step settings l (l.prepareAt settings i)
  | collect {l : ScanLoop} {i : Nat} (prepared : i < l.ready.length)
      (fine : (l.collectAt i).1 = none) : Step settings l (l.collectAt i).2

abbrev Steps (settings : ScanSettings) : ScanLoop → ScanLoop → Prop :=
  Relation.ReflTransGen (Step settings)

/-- In whatever order files are taken, prepared and collected, the scan goes on until every file is
collected, no collecting aborts it, and it ends with the property. -/
inductive Settles (settings : ScanSettings) (p : ScanLoop → Prop) : ScanLoop → Prop where
  | intro {l : ScanLoop} (goes : l.IsDone ∨ ∃ m, Step settings l m) (ends : l.IsDone → p l)
      (fine : ∀ i, (l.collectAt i).1 = none)
      (next : ∀ m, Step settings l m → Settles settings p m) : Settles settings p l

/-! ## What a step changes -/

theorem prepareAt_eq (settings : ScanSettings) {l : ScanLoop} {i : Nat} {source : Source}
    (h : l.running[i]? = some source) :
    l.prepareAt settings i = { l with
      running := l.running.eraseIdx i
      ready := l.ready ++ [(source, (source.prepare settings l.reconciler).1)]
      reconciler := (source.prepare settings l.reconciler).2 } := by
  simp only [prepareAt, h]

/-- What collecting a prepared file does to the store and the summary. -/
def judge (l : ScanLoop) (source : Source) : Prepared → Option StoreError × ScanLoop
  | .unchanged => (none, l.keep)
  | .failed cause => (none, l.fail source.path cause)
  | .record r => l.commit source.path r

theorem collectAt_eq {l : ScanLoop} {i : Nat} {source : Source} {prepared : Prepared}
    (h : l.ready[i]? = some (source, prepared)) :
    l.collectAt i = { l with ready := l.ready.eraseIdx i }.judge source prepared := by
  simp only [collectAt, h]
  cases prepared <;> rfl

theorem collectAt_none {l : ScanLoop} {i : Nat} (h : l.ready[i]? = none) :
    l.collectAt i = (none, l) := by
  simp only [collectAt, h]

theorem commit_frame (l : ScanLoop) (path : Path) (r : BookRecord) :
    (l.commit path r).2.waiting = l.waiting ∧ (l.commit path r).2.running = l.running ∧
    (l.commit path r).2.ready = l.ready ∧ (l.commit path r).2.reconciler = l.reconciler := by
  unfold commit
  dsimp only
  split <;> simp [keep, fail]

theorem judge_frame (l : ScanLoop) (source : Source) (prepared : Prepared) :
    (l.judge source prepared).2.waiting = l.waiting ∧
    (l.judge source prepared).2.running = l.running ∧
    (l.judge source prepared).2.ready = l.ready ∧
    (l.judge source prepared).2.reconciler = l.reconciler := by
  cases prepared with
  | unchanged => exact ⟨rfl, rfl, rfl, rfl⟩
  | failed cause => exact ⟨rfl, rfl, rfl, rfl⟩
  | record r => exact commit_frame l source.path r

/-- Collecting a file takes it off those prepared, and touches no other and no claim. -/
theorem collectAt_frame (l : ScanLoop) (i : Nat) :
    (l.collectAt i).2.waiting = l.waiting ∧ (l.collectAt i).2.running = l.running ∧
    (l.collectAt i).2.ready = l.ready.eraseIdx i ∧
    (l.collectAt i).2.reconciler = l.reconciler := by
  cases h : l.ready[i]? with
  | none =>
    rw [collectAt_none h]
    exact ⟨rfl, rfl, (List.eraseIdx_of_length_le (List.getElem?_eq_none_iff.1 h)).symm, rfl⟩
  | some x =>
    rw [collectAt_eq h]
    exact judge_frame _ _ _

/-! ## The end -/

def work (l : ScanLoop) : Nat := 3 * l.waiting.length + 2 * l.running.length + l.ready.length

/-- Every step leaves less to do. -/
theorem work_decreases {l m : ScanLoop} (h : Step settings l m) : m.work < l.work := by
  cases h with
  | @take n room left =>
    have taken : 0 < l.waiting.length := List.length_pos_iff.2 left
    simp only [work, fill, List.length_drop, List.length_append, List.length_take]
    omega
  | @prepare i taken =>
    rw [prepareAt_eq settings (List.getElem?_eq_getElem taken)]
    simp only [work, List.length_eraseIdx_of_lt taken, List.length_append, List.length_singleton]
    omega
  | @collect i prepared fine =>
    obtain ⟨waiting, running, ready, _⟩ := l.collectAt_frame i
    simp only [work, waiting, running, ready, List.length_eraseIdx_of_lt prepared]
    omega

theorem exists_step {l : ScanLoop} (fine : ∀ i, (l.collectAt i).1 = none) :
    l.IsDone ∨ ∃ m, Step settings l m := by
  by_cases ready : l.ready = []
  · by_cases running : l.running = []
    · by_cases waiting : l.waiting = []
      · exact .inl ⟨waiting, running, ready⟩
      · exact .inr ⟨_, .take (Nat.lt_succ_self _) waiting⟩
    · exact .inr ⟨_, .prepare (List.length_pos_iff.2 running)⟩
  · exact .inr ⟨_, .collect (List.length_pos_iff.2 ready) (fine 0)⟩

/-- An invariant under which no collecting aborts the scan holds where the scan ends. -/
theorem settles_of_invariant {inv p : ScanLoop → Prop} {l : ScanLoop} (start : inv l)
    (keeps : ∀ l m, inv l → Step settings l m → inv m)
    (fine : ∀ l, inv l → ∀ i, (l.collectAt i).1 = none)
    (ends : ∀ l, inv l → l.IsDone → p l) : Settles settings p l := by
  induction h : l.work using Nat.strongRecOn generalizing l with
  | ind work ih =>
    refine .intro (exists_step (fine l start)) (ends l start) (fine l start) fun m step => ?_
    have less := work_decreases step
    exact ih m.work (by omega) (keeps l m start step) rfl

theorem Settles.steps {p : ScanLoop → Prop} {l m : ScanLoop} (h : Settles settings p l)
    (steps : Steps settings l m) : Settles settings p m := by
  induction steps with
  | refl => exact h
  | tail _ step ih =>
    cases ih with
    | intro _ _ _ next => exact next _ step

theorem Settles.imp {p q : ScanLoop → Prop} {l : ScanLoop} (h : Settles settings p l)
    (implies : ∀ l, p l → q l) : Settles settings q l := by
  induction h with
  | intro goes ends fine _ ih => exact .intro goes (fun done => implies _ (ends done)) fine ih

theorem Settles.fine {p : ScanLoop → Prop} {l : ScanLoop} (h : Settles settings p l) (i : Nat) :
    (l.collectAt i).1 = none := by
  cases h with
  | intro _ _ fine _ => exact fine i

theorem Settles.ends {p : ScanLoop → Prop} {l : ScanLoop} (h : Settles settings p l)
    (done : l.IsDone) : p l := by
  cases h with
  | intro _ ends _ _ => exact ends done

/-! ## Runs -/

theorem limit_pos (settings : ScanSettings) : 0 < limit settings := by
  have workers := settings.workers_mem
  unfold limit
  omega

theorem prepareAll_steps (settings : ScanSettings) (count : Nat) (l : ScanLoop)
    (h : l.running.length = count) :
    Steps settings l (prepareAll settings count l) ∧
    (prepareAll settings count l).running = [] ∧
    (prepareAll settings count l).waiting = l.waiting := by
  induction count generalizing l with
  | zero => exact ⟨.refl, List.length_eq_zero_iff.1 h, rfl⟩
  | succ count ih =>
    have taken : 0 < l.running.length := by omega
    have first : Step settings l (l.prepareAt settings 0) := .prepare taken
    have eq := prepareAt_eq settings (List.getElem?_eq_getElem taken)
    have shorter : (l.prepareAt settings 0).running.length = count := by
      rw [eq, List.length_eraseIdx_of_lt taken, h]
      omega
    obtain ⟨steps, running, waiting⟩ := ih _ shorter
    refine ⟨.head first steps, running, waiting.trans ?_⟩
    rw [eq]

/-- The answer of a collecting that aborts the scan. -/
def Aborts (l : ScanLoop) (answer : Option StoreError × ScanLoop) : Prop :=
  ∃ i, l.collectAt i = answer ∧ ∃ e, answer.1 = some e

theorem collectAll_steps (settings : ScanSettings) (count : Nat) (l : ScanLoop)
    (h : l.ready.length = count) :
    ∃ k, Steps settings l k ∧ (k.Aborts (collectAll count l) ∨
      collectAll count l = (none, k) ∧ k.ready = [] ∧ k.running = l.running ∧
      k.waiting = l.waiting) := by
  induction count generalizing l with
  | zero => exact ⟨l, .refl, .inr ⟨rfl, List.length_eq_zero_iff.1 h, rfl, rfl⟩⟩
  | succ count ih =>
    have prepared : 0 < l.ready.length := by omega
    obtain ⟨waiting, running, ready, _⟩ := l.collectAt_frame 0
    cases answer : l.collectAt 0 with
    | mk error m =>
      rw [answer] at waiting running ready
      dsimp only at waiting running ready
      cases error with
      | some e =>
        refine ⟨l, .refl, .inl ⟨0, ?_, e, ?_⟩⟩ <;> simp only [collectAll, answer]
      | none =>
        have step : Step settings l (l.collectAt 0).2 := .collect prepared (by rw [answer])
        rw [answer] at step
        have shorter : m.ready.length = count := by
          rw [ready, List.length_eraseIdx_of_lt prepared]
          omega
        obtain ⟨k, steps, rest⟩ := ih m shorter
        refine ⟨k, .head step steps, ?_⟩
        simpa only [collectAll, answer, running, waiting] using rest

theorem rounds_steps (settings : ScanSettings) (cancelling : Cancelling) (fuel : Nat) (l : ScanLoop)
    (enough : l.waiting.length < fuel) (running : l.running = []) (ready : l.ready = []) :
    ∃ k, Steps settings l k ∧ (k.Aborts (rounds settings cancelling fuel l) ∨
      rounds settings cancelling fuel l = (none, k) ∧ (cancelling = none → k.IsDone)) := by
  induction fuel generalizing l with
  | zero => omega
  | succ fuel ih =>
    rw [rounds]
    split
    · rename_i stops
      refine ⟨l, .refl, .inr ⟨rfl, ?_⟩⟩
      rintro rfl
      have waiting : l.waiting = [] := by simpa [isCancelled] using stops
      exact ⟨waiting, running, ready⟩
    · rename_i goes
      have left : l.waiting ≠ [] := by
        rintro waiting
        simp [waiting] at goes
      have room : l.inFlight < limit settings := by
        simp [inFlight, running, ready, limit_pos]
      have take : Step settings l (l.fill (limit settings)) := .take room left
      have fewer : (l.fill (limit settings)).waiting.length < fuel := by
        have taken : 0 < l.waiting.length := List.length_pos_iff.2 left
        simp only [fill, List.length_drop]
        omega
      dsimp only
      generalize l.fill (limit settings) = filled at take fewer ⊢
      obtain ⟨prepares, running, waiting⟩ := prepareAll_steps settings _ filled rfl
      generalize prepareAll settings filled.running.length filled = prepared at *
      obtain ⟨k, collects, answer⟩ := collectAll_steps settings _ prepared rfl
      have steps := (Relation.ReflTransGen.head take prepares).trans collects
      rcases answer with ⟨i, collect, e, aborted⟩ | ⟨eq, ready, running', waiting'⟩
      · cases answer : collectAll prepared.ready.length prepared with
        | mk error m =>
          rw [answer] at collect aborted
          cases aborted
          exact ⟨k, steps, .inl ⟨i, collect, e, rfl⟩⟩
      · rw [eq]
        obtain ⟨k', more, rest⟩ := ih k (by rw [waiting', waiting]; exact fewer)
          (running'.trans running) ready
        exact ⟨k', steps.trans more, rest⟩

/-- A run goes through one of the orders, until it is aborted, cancelled or at its end. -/
theorem run_steps (settings : ScanSettings) (cancelling : Cancelling) {l : ScanLoop}
    (running : l.running = []) (ready : l.ready = []) :
    ∃ k, Steps settings l k ∧ (k.Aborts (l.run settings cancelling) ∨
      l.run settings cancelling = (none, k) ∧ (cancelling = none → k.IsDone)) :=
  rounds_steps settings cancelling _ l (Nat.lt_succ_self _) running ready

/-- What settles is what a run ends with. -/
theorem Settles.run {p : ScanLoop → Prop} {l : ScanLoop} (h : Settles settings p l)
    (running : l.running = []) (ready : l.ready = []) :
    ∃ k, Steps settings l k ∧ k.IsDone ∧ p k ∧ l.run settings none = (none, k) := by
  obtain ⟨k, steps, ⟨i, collect, e, aborted⟩ | ⟨eq, done⟩⟩ :=
    run_steps settings none running ready
  · have fine := (h.steps steps).fine i
    rw [collect, aborted] at fine
    cases fine
  · exact ⟨k, steps, done rfl, (h.steps steps).ends (done rfl), eq⟩

/-- What settles is what a scan ends with. -/
theorem Settles.scanSources {p : ScanLoop → Prop} {held : DigestSet} {s : Store}
    {files : List Source} (h : Settles settings p (start held s files)) :
    ∃ l, p l ∧ scanSources settings none held s files = (.ok (l.report none), l.store) := by
  obtain ⟨l, _, _, property, ended⟩ := h.run rfl rfl
  refine ⟨l, property, ?_⟩
  rw [EpubLibrary.scanSources, ended]

/-- A run that was not aborted has come to its end. -/
theorem run_of_ok {held : DigestSet} {s s' : Store} {files : List Source}
    {summary : ScanSummary} (h : scanSources settings none held s files = (.ok summary, s')) :
    ∃ l, (start held s files).run settings none = (none, l) ∧
      Steps settings (start held s files) l ∧ l.IsDone ∧ summary = l.report none ∧
      s' = l.store := by
  unfold scanSources at h
  obtain ⟨l, steps, ⟨i, collect, e, aborted⟩ | ⟨ended, done⟩⟩ :=
    run_steps settings none (l := start held s files) rfl rfl
  · cases answer : (start held s files).run settings none with
    | mk error m =>
      rw [answer] at aborted
      cases aborted
      simp [answer] at h
  · rw [ended] at h
    cases h
    exact ⟨l, ended, steps, done rfl, rfl, rfl⟩

/-- A run that was not aborted has gone through one of the orders to its end. -/
theorem scanSources_ok {held : DigestSet} {s s' : Store} {files : List Source}
    {summary : ScanSummary} (h : scanSources settings none held s files = (.ok summary, s')) :
    ∃ l, Steps settings (start held s files) l ∧ l.IsDone ∧ summary = l.report none ∧
      s' = l.store := by
  obtain ⟨l, _, ended⟩ := run_of_ok h
  exact ⟨l, ended⟩

/-- A scan reports on a folder exactly if the walk did not fail and the files found can be scanned. -/
theorem scan_ok_iff {s s' : Store} {t : FileTree} {cwd : Place} {folder : Path}
    {summary : ScanSummary} : scan settings none s t cwd folder = (.ok summary, s') ↔
      s.isOpen = true ∧ (∀ p e, .failed p e ∉ walk t cwd folder settings.followSymlinks) ∧
      scanSources settings none s.tables.contentHashes s
        (sourcesBelow t cwd folder settings.followSymlinks) = (.ok summary, s') := by
  have fine : (walk t cwd folder settings.followSymlinks).findSome? (·.failure?) = none ↔
      ∀ p e, .failed p e ∉ walk t cwd folder settings.followSymlinks := by
    rw [List.findSome?_eq_none_iff]
    refine ⟨fun none p e mem => absurd (none _ mem) (by simp [WalkEvent.failure?]), ?_⟩
    intro unbroken event mem
    cases event with
    | found p => rfl
    | skipped p reason => rfl
    | failed p e => exact absurd mem (unbroken p e)
  cases isOpen : s.isOpen with
  | false => simp [scan, Store.look, Store.query, isOpen]
  | true =>
    simp only [scan, Store.look, Store.query, isOpen, if_true, true_and, ← fine]
    cases failure : (walk t cwd folder settings.followSymlinks).findSome? (·.failure?) with
    | none =>
      dsimp only
      rw [Prod.ext_iff, Prod.ext_iff, mapError_ok_iff]
      simp
    | some failed =>
      refine iff_of_false (fun scanned => ?_) (by simp)
      unfold scanBroken at scanned
      dsimp only at scanned
      split at scanned
      · cases scanned
      · simp [isCancelled] at scanned

end EpubLibrary.ScanLoop
