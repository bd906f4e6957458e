import EpubLibrary.Proofs.Scan.Distinct

/-!
# The ledger of a scan

`Ledger` is what every state of a scan has in common, whatever the order of its steps: an account of
every file, the claims of those prepared, and the replay and the tally of those collected.
-/

namespace EpubLibrary

/-- The summary of what became of the collected files. -/
structure Tally (summary : ScanSummary) (past : List Collected) : Prop where
  imported : summary.imported = (past.filterMap (·.record?)).map (·.book)
  unchanged : summary.unchanged = past.countP (·.isKept)
  failed : summary.failed = past.filterMap (·.failure?)

theorem Tally.total {summary : ScanSummary} {past : List Collected} (h : Tally summary past) :
    summary.imported.length + summary.unchanged + summary.failed.length = past.length := by
  rw [h.imported, h.unchanged, h.failed, List.length_map]
  clear h
  induction past with
  | nil => rfl
  | cons c past ih =>
    obtain ⟨f, prepared, verdict⟩ := c
    rw [List.length_cons, ← ih]
    cases verdict <;>
      simp [Collected.record?, Collected.failure?, Collected.isKept] <;> omega

namespace ScanLoop

variable {settings : ScanSettings} {held : DigestSet} {s : Store} {files : List Source}
  {l m : ScanLoop} {past : List Collected} {f : Source} {prepared : Prepared}

def note (l : ScanLoop) (f : Source) : Verdict → ScanLoop
  | .kept => l.keep
  | .imported r =>
    { l with summary := { l.summary with imported := l.summary.imported ++ [r.book] } }
  | .failed cause => l.fail f.path cause

theorem note_frame (l : ScanLoop) (f : Source) (verdict : Verdict) :
    (l.note f verdict).waiting = l.waiting ∧ (l.note f verdict).running = l.running ∧
    (l.note f verdict).ready = l.ready ∧ (l.note f verdict).store = l.store := by
  cases verdict <;> exact ⟨rfl, rfl, rfl, rfl⟩

theorem tally_note (h : Tally l.summary past) (f : Source) (prepared : Prepared)
    (verdict : Verdict) :
    Tally (l.note f verdict).summary (past ++ [⟨f, prepared, verdict⟩]) := by
  cases verdict with
  | kept =>
    refine ⟨?_, ?_, ?_⟩
    · simp [note, keep, h.imported, Collected.record?]
    · simp [note, keep, h.unchanged, Collected.isKept]
    · simp [note, keep, h.failed, Collected.failure?]
  | imported r =>
    refine ⟨?_, ?_, ?_⟩
    · simp [note, h.imported, Collected.record?]
    · simp [note, h.unchanged, Collected.isKept]
    · simp [note, h.failed, Collected.failure?]
  | failed cause =>
    refine ⟨?_, ?_, ?_⟩
    · simp [note, fail, h.imported, Collected.record?]
    · simp [note, fail, h.unchanged, Collected.isKept]
    · simp [note, fail, h.failed, Collected.failure?]

/-- Collecting a file that does not abort the scan notes a verdict of the store. -/
theorem judge_eq_note (fine : (l.judge f prepared).1 = none) :
    ∃ verdict t n, Judged l.store ⟨f, prepared, verdict⟩ t ∧
      (l.judge f prepared).2 = { l with store := t, imports := n }.note f verdict := by
  cases prepared with
  | unchanged => exact ⟨.kept, l.store, l.imports, .unchanged, rfl⟩
  | failed cause => exact ⟨.failed cause, l.store, l.imports, .failed, rfl⟩
  | record r =>
    have keeps := l.store.importBook_keeps r
    simp only [judge, commit] at fine ⊢
    cases answer : l.store.importBook r with
    | mk reply t =>
      rw [answer] at fine keeps
      cases reply with
      | ok added =>
        cases added with
        | true => exact ⟨.imported r, t, l.imports + 1, .imported answer, rfl⟩
        | false =>
          obtain rfl := keeps (by simp)
          exact ⟨.kept, l.store, l.imports + 1, .held answer, rfl⟩
      | error e =>
        obtain rfl := keeps (by simp)
        cases e with
        | collision c => exact ⟨_, l.store, l.imports + 1, .collided answer, rfl⟩
        | violation v => cases fine
        | tooLarge => cases fine
        | unencodable u => cases fine
        | nested => cases fine
        | closed => cases fine

/-- Collecting a file that does not abort the scan has a verdict. -/
theorem judged_of_fine (tally : Tally l.summary past) (fine : (l.judge f prepared).1 = none) :
    ∃ verdict, Judged l.store ⟨f, prepared, verdict⟩ (l.judge f prepared).2.store ∧
      Tally (l.judge f prepared).2.summary (past ++ [⟨f, prepared, verdict⟩]) := by
  obtain ⟨verdict, t, n, judged, eq⟩ := judge_eq_note fine
  obtain ⟨_, _, _, store⟩ := note_frame { l with store := t, imports := n } f verdict
  refine ⟨verdict, ?_, ?_⟩
  · rw [eq, store]
    exact judged
  · rw [eq]
    exact tally_note (l := { l with store := t, imports := n }) tally f prepared verdict

/-- Only an answer of the store that is no verdict aborts a scan. -/
theorem judge_fine
    (answers : ∀ r, prepared = .record r → ∃ verdict t, Judged l.store ⟨f, .record r, verdict⟩ t) :
    (l.judge f prepared).1 = none := by
  cases prepared with
  | unchanged => rfl
  | failed cause => rfl
  | record r =>
    obtain ⟨verdict, t, judged⟩ := answers r rfl
    cases judged with
    | imported answer => simp only [judge, commit, answer]
    | held answer => simp only [judge, commit, answer]
    | collided answer => simp only [judge, commit, answer]

/-! ## The invariant -/

/-- Every file prepared so far, with what preparing it gave. -/
def seen (l : ScanLoop) (past : List Collected) : List (Source × Prepared) :=
  l.ready ++ past.map (·.claim)

/-- A scan of the files from a store, with the files that were collected so far. -/
structure Ledger (settings : ScanSettings) (held : DigestSet) (s : Store) (files : List Source)
    (l : ScanLoop) (past : List Collected) : Prop where
  account : files.Perm (l.waiting ++ l.running ++ (l.seen past).map (·.1))
  claims : Claims settings held l.reconciler (l.seen past)
  replay : Replay s past l.store
  tally : Tally l.summary past

theorem ledger_start (settings : ScanSettings) (held : DigestSet) (s : Store)
    (files : List Source) : Ledger settings held s files (start held s files) [] where
  account := by simp [start, seen]
  claims := claims_start
  replay := .nil
  tally := ⟨rfl, rfl, rfl⟩

theorem Ledger.take (h : Ledger settings held s files l past) (n : Nat) :
    Ledger settings held s files (l.fill n) past where
  account := by
    have moved : (l.waiting ++ l.running).Perm ((l.fill n).waiting ++ (l.fill n).running) := by
      have whole := List.take_append_drop (n - l.inFlight) l.waiting
      simp only [fill]
      generalize l.waiting.take (n - l.inFlight) = taken at *
      generalize l.waiting.drop (n - l.inFlight) = left at *
      rw [← whole, List.append_assoc, ← List.append_assoc left]
      exact List.perm_append_comm
    exact h.account.trans (moved.append_right _)
  claims := h.claims
  replay := h.replay
  tally := h.tally

theorem Ledger.prepare (h : Ledger settings held s files l past) {i : Nat}
    (taken : i < l.running.length) :
    Ledger settings held s files (l.prepareAt settings i) past := by
  have at_i := List.getElem?_eq_getElem taken
  have moved := List.getElem_cons_eraseIdx_perm taken
  rw [prepareAt_eq settings at_i]
  generalize l.running[i] = source at *
  have more : ((source, (source.prepare settings l.reconciler).1) :: l.seen past).Perm
      (l.ready ++ [(source, (source.prepare settings l.reconciler).1)] ++
        past.map (·.claim)) := by
    rw [List.append_assoc]
    exact List.perm_middle.symm
  refine ⟨?_, (h.claims.prepare source).perm more, h.replay, h.tally⟩
  refine h.account.trans ?_
  refine .trans ?_ ((more.map (·.1)).append_left _)
  rw [List.map_cons, List.append_assoc, List.append_assoc]
  refine List.Perm.append_left _ ?_
  exact (moved.symm.append_right _).trans List.perm_middle.symm

/-- A file that is collected goes to the past. -/
theorem Ledger.collect (h : Ledger settings held s files l past) {i : Nat}
    (prepared : i < l.ready.length) (fine : (l.collectAt i).1 = none) :
    ∃ c, l.ready[i]? = some c.claim ∧
      Ledger settings held s files (l.collectAt i).2 (past ++ [c]) := by
  obtain ⟨waiting, running, ready, reconciler⟩ := l.collectAt_frame i
  have moved := List.getElem_cons_eraseIdx_perm prepared
  have at_i := List.getElem?_eq_getElem prepared
  generalize l.ready[i] = x at *
  obtain ⟨source, prepared⟩ := x
  rw [collectAt_eq at_i] at fine
  obtain ⟨verdict, judged, tally⟩ :=
    judged_of_fine (l := { l with ready := l.ready.eraseIdx i }) h.tally fine
  rw [← collectAt_eq at_i] at judged tally
  have same : (l.seen past).Perm
      ((l.collectAt i).2.seen (past ++ [⟨source, prepared, verdict⟩])) := by
    rw [seen, seen, ready, List.map_append, ← List.append_assoc]
    refine (moved.symm.append_right _).trans ?_
    exact (List.perm_append_singleton _ _).symm
  refine ⟨⟨source, prepared, verdict⟩, at_i, ?_, ?_, h.replay.snoc judged, tally⟩
  · rw [waiting, running]
    exact h.account.trans ((same.map (·.1)).append_left _)
  · rw [reconciler]
    exact h.claims.perm same

/-- Every step keeps the ledger. -/
theorem Ledger.step (h : Ledger settings held s files l past) (step : Step settings l m) :
    ∃ past', Ledger settings held s files m past' := by
  cases step with
  | @take n room left => exact ⟨past, h.take n⟩
  | prepare taken => exact ⟨past, h.prepare taken⟩
  | collect prepared fine =>
    obtain ⟨c, _, collected⟩ := h.collect prepared fine
    exact ⟨_, collected⟩

/-- So every state of a scan has a ledger. -/
theorem steps_ledger (steps : Steps settings (start held s files) l) :
    ∃ past, Ledger settings held s files l past := by
  induction steps with
  | refl => exact ⟨[], ledger_start settings held s files⟩
  | tail _ step ih =>
    obtain ⟨past, before⟩ := ih
    exact before.step step

/-! ## What was found -/

section
variable (h : Ledger settings held s files l past)
include h

theorem Ledger.seen_mem {x : Source × Prepared} (mem : x ∈ l.seen past) : x.1 ∈ files :=
  h.account.mem_iff.2 (List.mem_append_right _ (List.mem_map_of_mem mem))

theorem Ledger.answer {c : Collected} (mem : c ∈ past) : Answers settings held c.claim :=
  h.claims.answers _ (List.mem_append_right _ (List.mem_map_of_mem mem))

/-- What was imported from a file is the record of the file. -/
theorem Ledger.record {c : Collected} {r : BookRecord} (mem : c ∈ past)
    (imported : c.record? = some r) : Answers settings held (c.source, .record r) := by
  obtain ⟨t, u, judged⟩ := h.replay.judged mem
  rw [← judged.record imported]
  exact h.answer mem

/-- No digest is owned twice. -/
theorem Ledger.once : (past.filterMap fun c => owned? c.claim).Nodup := by
  have once := h.claims.once
  rw [seen, List.filterMap_append, List.nodup_append, List.filterMap_map] at once
  exact once.2.1

/-- Two collected files do not own the same digest. -/
theorem Ledger.owner_unique {c c' : Collected} {d : String} (mem : c ∈ past) (mem' : c' ∈ past)
    (owns : owned? c.claim = some d) (owns' : owned? c'.claim = some d) : c = c' :=
  eq_of_nodup_filterMap h.once mem mem' owns owns'

variable (done : l.IsDone)
include done

/-- At the end every file is collected. -/
theorem Ledger.all : files.Perm (past.map (·.source)) := by
  obtain ⟨waiting, running, ready⟩ := done
  have account := h.account
  rw [waiting, running, seen, ready] at account
  simpa [Function.comp_def, Collected.claim] using account

/-- When a scan has ended, every digest of its files was found. -/
theorem Ledger.found_iff {d : String} :
    d ∈ l.reconciler.found ↔ ∃ f ∈ files, f.digest? = some d := by
  rw [h.claims.found]
  have account := h.account
  rw [done.1, done.2.1, List.nil_append, List.nil_append] at account
  constructor
  · rintro ⟨x, hx, digest⟩
    exact ⟨x.1, account.mem_iff.2 (List.mem_map_of_mem hx), digest⟩
  · rintro ⟨f, hf, digest⟩
    obtain ⟨x, hx, rfl⟩ := List.mem_map.1 (account.mem_iff.1 hf)
    exact ⟨x, hx, digest⟩

/-- At the end every digest that was found and not held has an owner. -/
theorem Ledger.exists_owner {d : String} (found : d ∈ l.reconciler.found) (new : d ∉ held) :
    ∃ c ∈ past, owned? c.claim = some d := by
  have owner := (h.claims.owner d).2 ⟨found, new⟩
  rw [seen, done.2.2, List.nil_append, List.filterMap_map] at owner
  exact List.mem_filterMap.1 owner

/-- At the end new content was extracted once, if digests tell contents apart. -/
theorem Ledger.exists_extracted (apart : TellApart files) {bytes : Bytes}
    (mem : bytes ∈ contentsOf files) (new : contentDigest bytes ∉ held) :
    ∃ c ∈ past, c.source.content = .ok bytes ∧ c.prepared = .ofContent settings bytes := by
  obtain ⟨f, hf, content⟩ := mem_contentsOf.1 mem
  have found := (h.found_iff done).2 ⟨f, hf, digest?_eq_some.2 ⟨bytes, content, rfl⟩⟩
  obtain ⟨c, hc, owns⟩ := h.exists_owner done found new
  obtain ⟨changed, digest⟩ := owned?_eq_some.1 owns
  obtain ⟨bytes', content', same⟩ := digest?_eq_some.1 digest
  have walked := (h.all done).mem_iff.2 (List.mem_map_of_mem (f := (·.source)) hc)
  obtain rfl := apart c.source walked f hf bytes' bytes content' content same
  exact ⟨c, hc, content', (h.answer hc).content content' changed⟩

end

end ScanLoop
end EpubLibrary
