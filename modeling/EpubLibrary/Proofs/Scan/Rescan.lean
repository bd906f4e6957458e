import EpubLibrary.Proofs.Scan.Outcome

namespace EpubLibrary

/-- Files that cannot be read fail; every other failure has a digest. -/
theorem length_failures {past : List Collected}
    (unreadable : ∀ c ∈ past, c.source.digest? = none → ∃ cause, c.verdict = .failed cause) :
    (past.filterMap (·.failure?)).length =
      past.countP (·.source.digest? = none) + (past.filterMap (·.failedDigest?)).length := by
  induction past with
  | nil => rfl
  | cons c past ih =>
    have rest := ih fun c hc => unreadable c (List.mem_cons_of_mem _ hc)
    have first := unreadable c List.mem_cons_self
    obtain ⟨f, prepared, verdict⟩ := c
    cases digest : f.digest? <;> cases verdict <;>
      simp_all [Collected.failure?, Collected.failedDigest?] <;> omega

namespace ScanLoop

variable {settings : ScanSettings} {s : Store} {files : List Source} {l m : ScanLoop}
  {past : List Collected}

section
variable (h : Ledger settings s.tables.contentHashes s files l past) (sound : s.Sound)
include h sound

/-- A stored digest was stored before, or is that of an imported file. -/
theorem Ledger.stored_iff {d : String} : d ∈ l.store.tables.contentHashes ↔
    d ∈ s.tables.contentHashes ∨
      ∃ c ∈ past, ∃ r, c.record? = some r ∧ c.source.digest? = some d := by
  have grown := (h.replay.grows sound).2
  rw [grown, Store.plusAll, Tables.mem_contentHashes_plusAll]
  refine or_congr_right ?_
  constructor
  · rintro ⟨r, hr, rfl⟩
    obtain ⟨c, hc, record⟩ := List.mem_filterMap.1 hr
    exact ⟨c, hc, r, record, (h.record hc record).digest_record⟩
  · rintro ⟨c, hc, r, record, digest⟩
    exact ⟨r, List.mem_filterMap.2 ⟨c, hc, record⟩,
      Option.some.inj ((h.record hc record).digest_record.symm.trans digest)⟩

/-- The content of a file that failed is not stored, whatever was stored since. -/
theorem Ledger.failed_new {c : Collected} {d : String} (mem : c ∈ past)
    (failed : c.failedDigest? = some d) :
    owned? c.claim = some d ∧ d ∉ l.store.tables.contentHashes := by
  obtain ⟨f, prepared, verdict⟩ := c
  obtain ⟨cause, rfl⟩ : ∃ cause, verdict = .failed cause := by
    cases verdict <;> simp_all [Collected.failedDigest?]
  have digest : f.digest? = some d := failed
  have owns : owned? (f, prepared) = some d := by
    obtain ⟨_, _, judged⟩ := h.replay.judged mem
    cases judged <;> simp [owned?, digest]
  have new := (h.claims.owner d).1 (List.mem_filterMap.2
    ⟨_, List.mem_append_right _ (List.mem_map_of_mem mem), owns⟩)
  refine ⟨owns, fun stored => ?_⟩
  rcases (h.stored_iff sound).1 stored with old | ⟨c, hc, r, record, digest'⟩
  · exact new.2 old
  · obtain ⟨_, _, judged⟩ := h.replay.judged hc
    have owns' : owned? c.claim = some d := by
      simp [owned?, Collected.claim, judged.record record, digest']
    have same := h.owner_unique mem hc owns owns'
    rw [← same] at record
    cases record

/-- Content that is still not stored belongs to a file that failed. -/
theorem Ledger.exists_failed (done : l.IsDone) {d : String} (found : d ∈ l.reconciler.found)
    (new : d ∉ l.store.tables.contentHashes) : ∃ c ∈ past, c.failedDigest? = some d := by
  have notStored (stored : d ∈ s.tables.contentHashes) : False :=
    new ((h.stored_iff sound).2 (.inl stored))
  obtain ⟨c, hc, owns⟩ := h.exists_owner done found notStored
  have digest : c.source.digest? = some d := (owned?_eq_some.1 owns).2
  refine ⟨c, hc, ?_⟩
  obtain ⟨t, u, rs, soundThen, judged, grown⟩ := h.replay.of_mem sound hc
  have answer := h.answer hc
  cases judged with
  | unchanged => simp [owned?, Collected.claim] at owns
  | failed => exact digest
  | imported answer =>
    exact absurd ((h.stored_iff sound).2 (.inr ⟨_, hc, _, rfl, digest⟩)) new
  | held holds =>
    refine absurd ?_ new
    rw [grown, Store.plusAll, Tables.mem_contentHashes_plusAll]
    have same := Option.some.inj (answer.digest_record.symm.trans digest)
    exact .inl (same ▸ (Store.importBook_false holds).stored)
  | collided => exact digest

/-- A scan that has ended failed once for each file that cannot be read and once for each digest
that it found and that is not stored. -/
theorem Ledger.failures (done : l.IsDone) : ∃ ds : List String, ds.Nodup ∧
    (∀ d, d ∈ ds ↔ (∃ f ∈ files, f.digest? = some d) ∧ d ∉ l.store.tables.contentHashes) ∧
    l.summary.failed.length = files.countP (·.digest? = none) + ds.length := by
  refine ⟨past.filterMap (·.failedDigest?), ?_, ?_, ?_⟩
  · have once := List.pairwise_filterMap.1 h.once
    refine List.pairwise_filterMap.2 (once.imp_of_mem ?_)
    intro c c' hc hc' apart d failed d' failed'
    exact apart d (h.failed_new sound hc failed).1 d' (h.failed_new sound hc' failed').1
  · intro d
    rw [List.mem_filterMap, ← h.found_iff done]
    constructor
    · rintro ⟨c, hc, failed⟩
      obtain ⟨owns, new⟩ := h.failed_new sound hc failed
      have owned := List.mem_filterMap.2
        ⟨_, List.mem_append_right l.ready (List.mem_map_of_mem hc), owns⟩
      exact ⟨((h.claims.owner d).1 owned).1, new⟩
    · rintro ⟨found, new⟩
      exact h.exists_failed sound done found new
  · rw [h.tally.failed, (h.all done).countP_eq, List.countP_map]
    refine length_failures fun c hc noDigest => ?_
    obtain ⟨_, _, judged⟩ := h.replay.judged hc
    have answer := h.answer hc
    have digest := answer.readable
    rw [Collected.claim, noDigest] at digest
    cases judged with
    | unchanged => simp at digest
    | failed => exact ⟨_, rfl⟩
    | imported => simp at digest
    | held => simp at digest
    | collided => exact ⟨_, rfl⟩

/-- A record of the scanned files that is still not stored is refused by the store that the scan
leaves, as it was by the one before. -/
theorem Ledger.collides_again (done : l.IsDone) (apart : TellApart files) {f : Source}
    {bytes : Bytes} {r : BookRecord} (mem : f ∈ files) (content : f.content = .ok bytes)
    (derived : recordOf settings bytes = .ok r)
    (new : r.book.contentHash ∉ l.store.tables.contentHashes) :
    ∃ c, l.store.importBook r = (.error (.collision c), l.store) := by
  have digest : f.digest? = some r.book.contentHash := by
    rw [contentHash_recordOf derived]
    exact digest?_eq_some.2 ⟨bytes, content, rfl⟩
  have found := (h.found_iff done).2 ⟨f, mem, digest⟩
  obtain ⟨⟨g, prepared, verdict⟩, hc, failed⟩ := h.exists_failed sound done found new
  obtain ⟨t, u, rs, soundThen, judged, grown⟩ := h.replay.of_mem sound hc
  have owns := owned?_eq_some.1 (h.failed_new sound hc failed).1
  have gives : prepared = .record r := by
    obtain ⟨bytes', content', same⟩ := digest?_eq_some.1 owns.2
    have walked : g ∈ files := (h.all done).mem_iff.2 (List.mem_map_of_mem hc)
    obtain rfl := apart g walked f mem bytes' bytes content' content
      (same.trans (contentHash_recordOf derived))
    exact ((h.answer hc).content content' owns.1).trans (Prepared.ofContent_ok derived)
  subst gives
  cases judged with
  | imported => cases failed
  | held => cases failed
  | collided answer =>
    obtain ⟨idle, collides⟩ := Store.importBook_collision soundThen answer
    have idleNow : l.store.isPending = false := by
      rw [grown]
      exact idle
    have notHeld : ¬ l.store.tables.Holds r.draft := fun held => new held.stored
    refine Store.importBook_collides (h.replay.grows sound).1 idleNow notHeld ?_
    rw [grown]
    exact collides.grow rs

end

/-! ## The second scan -/

/-- What a scan that ended has in common with an earlier one that ended. -/
structure Repeats (l m : ScanLoop) : Prop where
  store : m.store = l.store
  imported : m.summary.imported = []
  orphaned : (m.report none).orphaned = (l.report none).orphaned
  failed : m.summary.failed.length = l.summary.failed.length
  unchanged : m.summary.unchanged = l.summary.unchanged + l.summary.imported.length

/-- Records that are all refused leave the store as it is. -/
theorem replay_refused {t : Store} (replay : Replay s past t)
    (refused : ∀ c ∈ past, ∀ r, c.prepared = .record r →
      ∃ k, s.importBook r = (.error (.collision k), s)) :
    t = s ∧ past.filterMap (·.record?) = [] := by
  induction replay with
  | nil => exact ⟨rfl, rfl⟩
  | @snoc past c t u _ last ih =>
    obtain ⟨rfl, nothing⟩ := ih fun c hc => refused c (List.mem_append_left _ hc)
    have refuses := refused c (List.mem_append_right _ (List.mem_singleton_self c))
    rw [List.filterMap_append, nothing, List.nil_append]
    cases last with
    | unchanged => exact ⟨rfl, rfl⟩
    | failed => exact ⟨rfl, rfl⟩
    | imported answer =>
      obtain ⟨k, hk⟩ := refuses _ rfl
      simp [hk] at answer
    | held => exact ⟨rfl, rfl⟩
    | collided => exact ⟨rfl, rfl⟩

section
variable (first : Ledger settings s.tables.contentHashes s files l past) (sound : s.Sound)
  (done : l.IsDone) (apart : TellApart files) {again : List Collected}
  (second : Ledger settings l.store.tables.contentHashes l.store files m again)
include first sound done apart second

/-- What has a record and is still not stored collided, and does so again. -/
theorem Ledger.again_refused {f : Source} {r : BookRecord}
    (mem : (f, Prepared.record r) ∈ m.seen again) :
    ∃ c, l.store.importBook r = (.error (.collision c), l.store) := by
  obtain ⟨bytes, content, new, derived⟩ := (second.claims.answers _ mem).record
  refine first.collides_again sound done apart (second.seen_mem mem) content derived ?_
  rw [contentHash_recordOf derived]
  exact new

/-- A second scan changes nothing on its way. -/
theorem Ledger.again_same : m.store = l.store ∧ again.filterMap (·.record?) = [] := by
  refine replay_refused second.replay fun c hc r gives => ?_
  refine first.again_refused sound done apart second (f := c.source) ?_
  rw [← gives]
  exact List.mem_append_right _ (List.mem_map_of_mem (f := (·.claim)) hc)

theorem Ledger.again_fine (i : Nat) : (m.collectAt i).1 = none := by
  cases h : m.ready[i]? with
  | none => rw [collectAt_none h]
  | some x =>
    obtain ⟨f, prepared⟩ := x
    rw [collectAt_eq h]
    refine judge_fine ?_
    rintro r rfl
    have mem : (f, Prepared.record r) ∈ m.seen again :=
      List.mem_append_left _ (List.mem_of_getElem? h)
    obtain ⟨c, refuses⟩ := first.again_refused sound done apart second mem
    rw [← (first.again_same sound done apart second).1] at refuses
    exact ⟨_, _, .collided refuses⟩

/-- So the second scan reports as many failures, and the rest as unchanged. -/
theorem Ledger.again_repeats (ended : m.IsDone) : l.Repeats m := by
  obtain ⟨store, nothing⟩ := first.again_same sound done apart second
  have imported : m.summary.imported = [] := by
    rw [second.tally.imported, nothing]
    rfl
  have soundNow := (first.replay.grows sound).1
  have failed : m.summary.failed.length = l.summary.failed.length := by
    obtain ⟨ds, nodup, mem, count⟩ := first.failures sound done
    obtain ⟨es, nodup', mem', count'⟩ := second.failures soundNow ended
    have same : es.Perm ds := by
      refine (List.perm_ext_iff_of_nodup nodup' nodup).2 fun d => ?_
      rw [mem, mem', store]
    rw [count, count', same.length_eq]
  refine ⟨store, imported, ?_, failed, ?_⟩
  · have found (d : String) : d ∈ m.reconciler.found ↔ d ∈ l.reconciler.found := by
      rw [second.found_iff ended, first.found_iff done]
    have same : m.reconciler.orphaned = l.reconciler.orphaned := by
      refine DigestSet.ext_mem fun d => ?_
      simp only [Reconciler.orphaned, DigestSet.mem_diff, second.claims.stored,
        first.claims.stored, found, first.stored_iff sound]
      constructor
      · rintro ⟨old | ⟨c, hc, r, _, digest⟩, missing⟩
        · exact ⟨old, missing⟩
        · refine absurd ((first.found_iff done).2 ⟨c.source, ?_, digest⟩) missing
          exact (first.all done).mem_iff.2 (List.mem_map_of_mem hc)
      · rintro ⟨old, missing⟩
        exact ⟨.inl old, missing⟩
    simp only [report, orphans, same, store]
    rfl
  · have total := first.tally.total
    have total' := second.tally.total
    have all := (first.all done).length_eq
    have all' := (second.all ended).length_eq
    rw [List.length_map] at all all'
    rw [imported] at total'
    rw [List.length_nil] at total'
    omega

omit second in
/-- A second scan comes to an end in any order. -/
theorem Ledger.again_settles :
    Settles settings l.Repeats (start l.store.tables.contentHashes l.store files) := by
  let inv (m : ScanLoop) : Prop :=
    ∃ again, Ledger settings l.store.tables.contentHashes l.store files m again
  have begin : inv (start l.store.tables.contentHashes l.store files) :=
    ⟨[], ledger_start settings _ l.store files⟩
  refine settles_of_invariant begin ?_ ?_ ?_
  · rintro m m' ⟨again, second⟩ step
    exact second.step step
  · rintro m ⟨again, second⟩ i
    exact first.again_fine sound done apart second i
  · rintro m ⟨again, second⟩ ended
    exact first.again_repeats sound done apart second ended

end

/-- A second scan of the same files, in any order, comes to an end, changes nothing, and reports the
same orphaned books and as many failures. Only if two contents have one digest may it extract the
other one of them. -/
theorem rescan_repeats (reach : s.Reachable)
    (steps : Steps settings (start s.tables.contentHashes s files) l) (done : l.IsDone) :
    (∃ a ∈ contentsOf files, ∃ b ∈ contentsOf files, a ≠ b ∧ contentDigest a = contentDigest b) ∨
      Settles settings l.Repeats (start l.store.tables.contentHashes l.store files) := by
  rcases clash_or_tellApart files with clash | apart
  · exact .inl clash
  · obtain ⟨past, first⟩ := steps_ledger steps
    exact .inr (first.again_settles reach.sound done apart)

/-- A second scan of two files with one book and one file without. -/
theorem rescan_repeats_leafFiles : ∃ l,
    Steps (leafSettings 4) (start shelf.tables.contentHashes shelf leafFiles) l ∧ l.IsDone ∧
    l.summary.imported.length = 1 ∧ l.summary.unchanged = 1 ∧ l.summary.failed.length = 1 ∧
    Settles (leafSettings 4) l.Repeats
      (start l.store.tables.contentHashes l.store leafFiles) := by
  obtain ⟨l, steps, done, ⟨imported, unchanged, failed, _⟩, _⟩ :=
    (settles_leafFiles 4).run rfl rfl
  refine ⟨l, steps, done, imported, unchanged, failed, ?_⟩
  refine (rescan_repeats reachable_shelf steps done).resolve_left ?_
  rintro ⟨a, ha, b, hb, other, same⟩
  exact distinctBooks_leafFiles 4 a ha b hb other (by rw [bookIdOf, bookIdOf, same])

/-- The same of two scans of a tree. -/
theorem scan_again {t : FileTree} {cwd : Place} {folder : Path} {s' : Store}
    {summary : ScanSummary} (reach : s.Reachable)
    (apart : TellApart (sourcesBelow t cwd folder settings.followSymlinks))
    (scanned : scan settings none s t cwd folder = (.ok summary, s')) :
    ∃ again, scan settings none s' t cwd folder = (.ok again, s') ∧ again.imported = [] ∧
      again.orphaned = summary.orphaned ∧ again.failed.length = summary.failed.length ∧
      again.unchanged = summary.unchanged + summary.imported.length := by
  obtain ⟨_, unbroken, scanned⟩ := scan_ok_iff.1 scanned
  obtain ⟨l, steps, done, rfl, rfl⟩ := scanSources_ok scanned
  obtain ⟨past, first⟩ := steps_ledger steps
  have openNow := (first.replay.grows reach.sound).1.isOpen
  obtain ⟨m, repeats, eq⟩ := (first.again_settles reach.sound done apart).scanSources
  refine ⟨m.report none, scan_ok_iff.2 ⟨openNow, unbroken, ?_⟩, repeats.imported,
    repeats.orphaned, repeats.failed, repeats.unchanged⟩
  rw [eq, repeats.store]

end ScanLoop
end EpubLibrary
