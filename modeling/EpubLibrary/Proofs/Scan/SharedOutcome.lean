import EpubLibrary.Proofs.Scan.Mirrored
import EpubLibrary.Proofs.Scan.Rescan

namespace EpubLibrary

open Epub (ExtractedBook)

structure Tables.SameRows (t u : Tables) : Prop where
  books : t.books.Perm u.books
  chapters : t.chapters.Perm u.chapters
  toc : t.toc.Perm u.toc
  bookmarks : t.bookmarks.Perm u.bookmarks

theorem Tables.sameRows_plusAll (t : Tables) {rs qs : List BookRecord} (h : rs.Perm qs) :
    (t.plusAll rs).SameRows (t.plusAll qs) where
  books := by
    rw [books_plusAll, books_plusAll]
    exact (h.map _).append_left _
  chapters := by
    rw [chapters_plusAll, chapters_plusAll]
    exact (h.flatMap_right _).append_left _
  toc := by
    rw [toc_plusAll, toc_plusAll]
    exact (h.flatMap_right _).append_left _
  bookmarks := by
    rw [bookmarks_plusAll, bookmarks_plusAll]

namespace ScanLoop

variable {settings : ScanSettings} {s : Store} {files : List Source} {l : ScanLoop}
  {past : List Collected}

/-- When a scan has ended, a digest is stored if it was before or is that of content that parses. -/
theorem Ledger.stored_at_end (h : Ledger settings s.tables.contentHashes s files l past)
    (idle : s.Idle) (distinct : DistinctIds settings s.tables files)
    (countable : ∀ a ∈ contentsOf files, ∀ r, recordOf settings a = .ok r → r.Countable)
    (done : l.IsDone) (d : String) : d ∈ l.store.tables.contentHashes ↔
      d ∈ s.tables.contentHashes ∨
        ∃ a ∈ contentsOf files, contentDigest a = d ∧ ∃ r, recordOf settings a = .ok r := by
  rw [(h.replay.grows idle.toSound).2, Store.plusAll, Tables.mem_contentHashes_plusAll]
  simp only [h.mem_records idle distinct countable done]
  constructor
  · rintro (old | ⟨r, ⟨a, mem, _, derived⟩, rfl⟩)
    · exact .inl old
    · exact .inr ⟨a, mem, (contentHash_recordOf derived).symm, r, derived⟩
  · rintro (old | ⟨a, mem, rfl, r, derived⟩)
    · exact .inl old
    · by_cases old : contentDigest a ∈ s.tables.contentHashes
      · exact .inl old
      · exact .inr ⟨r, ⟨a, mem, old, derived⟩, contentHash_recordOf derived⟩

/-- Scans of the same files fail equally often if they leave the digests of the files stored
alike. -/
theorem Ledger.failures_eq {t : Store} {m : ScanLoop} {past' : List Collected}
    (h : Ledger settings s.tables.contentHashes s files l past) (sound : s.Sound) (done : l.IsDone)
    (h' : Ledger settings t.tables.contentHashes t files m past') (sound' : t.Sound)
    (done' : m.IsDone) (alike : ∀ a ∈ contentsOf files,
      contentDigest a ∈ l.store.tables.contentHashes ↔
        contentDigest a ∈ m.store.tables.contentHashes) :
    l.summary.failed.length = m.summary.failed.length := by
  obtain ⟨ds, nodup, mem, count⟩ := h.failures sound done
  obtain ⟨es, nodup', mem', count'⟩ := h'.failures sound' done'
  have same : ∀ d, d ∈ ds ↔ d ∈ es := by
    intro d
    rw [mem, mem']
    refine and_congr_right fun ⟨f, hf, digest⟩ => not_congr ?_
    obtain ⟨a, content, rfl⟩ := digest?_eq_some.1 digest
    exact alike a (mem_contentsOf.2 ⟨f, hf, content⟩)
  rw [count, count', ((List.perm_ext_iff_of_nodup nodup nodup').2 same).length_eq]

end ScanLoop

namespace Shared

variable {settings : ScanSettings} {s t : Store} {files : Side → List Source} {log : Log}
  {x y : Side} {l alone : ScanLoop} {before : List BookRecord} {past : List Collected}

section
variable (distinct : DistinctIds settings s.tables (allFiles files))
  (countable : ∀ a ∈ contentsOf (allFiles files), ∀ r, recordOf settings a = .ok r → r.Countable)
include distinct countable

/-- A scan that has ended saw every new record of its files; it, or the other one, imported it. -/
theorem Mirrored.complete (h : Mirrored settings s files log x l before alone past)
    (logged : Logged settings s files log t) (done : l.IsDone) {a : Bytes} {r : BookRecord}
    (mem : a ∈ contentsOf (files x)) (new : contentDigest a ∉ s.tables.contentHashes)
    (derived : recordOf settings a = .ok r) : r ∈ log.records := by
  have own := mem_contentsOf_allFiles.2 ⟨x, mem⟩
  by_cases old : contentDigest a ∈ (s.plusAll before).tables.contentHashes
  · -- The other scan imported it before the snapshot, so this one called it known.
    rw [Store.plusAll, Tables.mem_contentHashes_plusAll] at old
    obtain ⟨q, hq, same⟩ := old.resolve_left new
    have known := h.snapshot hq
    have derived' := (logged.new q known).recordOf_eq distinct own same.symm
    rw [derived] at derived'
    rwa [← Except.ok.inj derived'] at known
  · have collected := (h.ledger.mem_records h.idle (h.distinctIds distinct logged)
      (countable_side countable x) (h.alike.isDone done) r).2 ⟨a, mem, old, derived⟩
    obtain ⟨c, hc, record⟩ := List.mem_filterMap.1 collected
    exact h.stored c hc r record

/-- A scan that has ended failed as often as one that is alone from the beginning: what was stored
before its snapshot has a record, so it fails in neither. -/
theorem Mirrored.failures (h : Mirrored settings s files log x l before alone past)
    (logged : Logged settings s files log t) (done : l.IsDone) (idle : s.Idle) {m : ScanLoop}
    {past' : List Collected}
    (ledger : ScanLoop.Ledger settings s.tables.contentHashes s (files x) m past')
    (ended : m.IsDone) : l.summary.failed.length = m.summary.failed.length := by
  have first := distinctIds_alone distinct x
  have short := countable_side countable x
  have aloneDone := h.alike.isDone done
  rw [h.failed, ← h.ledger.tally.failed]
  refine h.ledger.failures_eq h.idle.toSound aloneDone ledger idle.toSound ended fun b mem => ?_
  rw [h.ledger.stored_at_end h.idle (h.distinctIds distinct logged) short aloneDone,
    ledger.stored_at_end idle first short ended, Store.plusAll, Tables.mem_contentHashes_plusAll]
  constructor
  · rintro ((old | ⟨q, hq, same⟩) | parsed)
    · exact .inl old
    · -- The snapshot held it from the other scan, so the content parses here too.
      have own := mem_contentsOf_allFiles.2 ⟨x, mem⟩
      have derived := (logged.new q (h.snapshot hq)).recordOf_eq distinct own same.symm
      exact .inr ⟨b, mem, rfl, q, derived⟩
    · exact .inr parsed
  · rintro (old | parsed)
    · exact .inl (.inl old)
    · exact .inr parsed

end

/-! ## Both scans -/

/-- What every state of both scans has in common. -/
structure Accounts (settings : ScanSettings) (s : Store) (files : Side → List Source) (w : Shared)
    (log : Log) : Prop where
  logged : Logged settings s files log w.store
  imported : ∀ x, (w.summary x).imported = log.booksOf x
  mirrored : ∀ x l, w.scan x = some l →
    ∃ before alone past, Mirrored settings s files log x l before alone past

theorem accounts_start (settings : ScanSettings) (files : Side → List Source) (idle : s.Idle) :
    Accounts settings s files (start s) [] where
  logged := ⟨rfl, idle, by simp [Log.records], by simp [Log.records]⟩
  imported := fun _ => rfl
  mirrored := by
    intro x l none
    cases none

variable {w v : Shared}

/-- One scan goes on, and what it imports is added to the log. -/
theorem Accounts.put (h : Accounts settings s files w log) {more : List BookRecord}
    (logged : Logged settings s files (log.add x more) l.store)
    (imported : l.summary.imported = log.booksOf x ++ more.map (·.book))
    (mirrored : Mirrored settings s files (log.add x more) x l before alone past) :
    Accounts settings s files (w.put x l) (log.add x more) := by
  refine ⟨logged, fun y => ?_, fun y m scan => ?_⟩
  · by_cases same : y = x
    · subst same
      rw [summary_eq (w.put_self y l), imported, Log.booksOf_add_self]
    · rw [summary, w.put_other same, ← summary, h.imported, log.booksOf_add_other same]
  · by_cases same : y = x
    · subst same
      rw [put_self] at scan
      cases scan
      exact ⟨before, alone, past, mirrored⟩
    · rw [w.put_other same] at scan
      obtain ⟨before, alone, past, other⟩ := h.mirrored y m scan
      exact ⟨before, alone, past, other.add x more⟩

/-- The same if it imports nothing. -/
theorem Accounts.stay (h : Accounts settings s files w log)
    (store : l.store = w.store) (imported : l.summary.imported = (w.summary x).imported)
    (mirrored : Mirrored settings s files log x l before alone past) :
    Accounts settings s files (w.put x l) log := by
  have logged : Logged settings s files (log.add x []) l.store := by
    rw [Log.add_nil, store]
    exact h.logged
  have same : l.summary.imported = log.booksOf x ++ ([] : List BookRecord).map (·.book) := by
    rw [imported, h.imported, List.map_nil, List.append_nil]
  have put := h.put logged same (mirrored.add x [])
  rwa [Log.add_nil] at put

section
variable (distinct : DistinctIds settings s.tables (allFiles files))
  (countable : ∀ a ∈ contentsOf (allFiles files), ∀ r, recordOf settings a = .ok r → r.Countable)
include distinct countable

/-- Every step of either scan keeps the accounts. -/
theorem Accounts.step (h : Accounts settings s files w log) {σ : Side → ScanSettings}
    (agree : ∀ x, (σ x).Agree settings) (step : Step σ files w v) :
    ∃ log, Accounts settings s files v log := by
  cases step with
  | @begin x held idle snapshot =>
    rw [Store.look_open h.logged.idle.isOpen] at snapshot
    cases snapshot
    refine ⟨log, h.stay rfl ?_ (h.logged.mirrored x)⟩
    rw [summary, idle]
    rfl
  | @go x l m running step =>
    obtain ⟨before, alone, past, mirrored⟩ := h.mirrored x l running
    have mirrored := mirrored.on w.store
    have imported := h.imported x
    rw [summary_eq running] at imported
    cases (agree x).step step with
    | @take n room left =>
      refine ⟨log, h.stay rfl ?_ (mirrored.take n)⟩
      rw [summary_eq running]
      rfl
    | @prepare i taken =>
      have eq := ScanLoop.prepareAt_eq settings (List.getElem?_eq_getElem taken)
      refine ⟨log, h.stay ?_ ?_ (mirrored.prepare taken)⟩
      · rw [eq]
        rfl
      · rw [eq, summary_eq running]
        rfl
    | @collect i prepared fine =>
      obtain ⟨more, c, collects, mirrored⟩ :=
        mirrored.collect distinct countable h.logged prepared
      refine ⟨_, h.put collects.logged ?_ mirrored⟩
      rw [collects.imported, ← imported]
      rfl

/-- Nothing aborts either scan. -/
theorem Accounts.fine (h : Accounts settings s files w log) : w.Fine where
  snapshot := ⟨_, Store.look_open h.logged.idle.isOpen _⟩
  collects := by
    intro x l running i
    obtain ⟨before, alone, past, mirrored⟩ := h.mirrored x l running
    by_cases prepared : i < l.ready.length
    · obtain ⟨more, c, collects, _⟩ :=
        (mirrored.on w.store).collect distinct countable h.logged prepared
      exact collects.fine
    · have none : (l.on w.store).ready[i]? = none :=
        List.getElem?_eq_none (Nat.le_of_not_lt prepared)
      rw [ScanLoop.collectAt_none none]

variable (done : w.IsDone)
include done

/-- At the end the log holds the records of all new contents that parse. -/
theorem Accounts.mem_records (h : Accounts settings s files w log) (r : BookRecord) :
    r ∈ log.records ↔ NewRecord settings s (allFiles files) r := by
  constructor
  · exact h.logged.new r
  · rintro ⟨a, mem, new, derived⟩
    obtain ⟨x, mem⟩ := mem_contentsOf_allFiles.1 mem
    obtain ⟨l, running, ended⟩ := done x
    obtain ⟨before, alone, past, mirrored⟩ := h.mirrored x l running
    exact mirrored.complete distinct countable h.logged ended mem new derived

/-- One scan of all files imports the same records. -/
theorem Accounts.sameRows (h : Accounts settings s files w log) (idle : s.Idle) {m : ScanLoop}
    (ledger : ScanLoop.Ledger settings s.tables.contentHashes s (allFiles files) m past)
    (ended : m.IsDone) : w.store.tables.SameRows m.store.tables := by
  have nodup : log.records.Nodup := .of_map _ h.logged.once
  have nodup' : (past.filterMap (·.record?)).Nodup :=
    .of_map _ (ledger.records_nodup idle distinct countable)
  have same := (List.perm_ext_iff_of_nodup nodup nodup').2 fun r =>
    (h.mem_records distinct countable done r).trans
      (ledger.mem_records idle distinct countable ended r).symm
  rw [h.logged.grown, (ledger.replay.grows idle.toSound).2]
  exact s.tables.sameRows_plusAll same

end

/-- What two scans that share a store leave and report: the rows of one scan of all files, every
new content that parses imported by one of them, and as many failures as each has alone. -/
structure Outcome (settings : ScanSettings) (σ : Side → ScanSettings) (s : Store)
    (files : Side → List Source) (w : Shared) : Prop where
  rows : ScanLoop.Settles settings (fun m => w.store.tables.SameRows m.store.tables)
    (.start s.tables.contentHashes s (allFiles files))
  once : (((w.summary .left).imported ++ (w.summary .right).imported).map (·.contentHash)).Nodup
  imported : ∀ d,
    d ∈ ((w.summary .left).imported ++ (w.summary .right).imported).map (·.contentHash) ↔
      d ∉ s.tables.contentHashes ∧
        ∃ a ∈ contentsOf (allFiles files), contentDigest a = d ∧ ∃ x, ExtractedBook.read a = .ok x
  failed : ∀ x, ScanLoop.Settles (σ x)
    (fun m => (w.summary x).failed.length = m.summary.failed.length)
    (.start s.tables.contentHashes s (files x))

theorem Accounts.outcome (h : Accounts settings s files w log) (done : w.IsDone) (idle : s.Idle)
    {σ : Side → ScanSettings} (agree : ∀ x, (σ x).Agree settings)
    (distinct : DistinctIds settings s.tables (allFiles files))
    (countable : ∀ a ∈ contentsOf (allFiles files), ∀ r, recordOf settings a = .ok r →
      r.Countable) : Outcome settings σ s files w := by
  have imports : (((w.summary .left).imported ++ (w.summary .right).imported).map
      (·.contentHash)).Perm (log.records.map (·.book.contentHash)) := by
    have perm := log.booksOf_perm.map (·.contentHash)
    rw [List.map_map, ← h.imported, ← h.imported] at perm
    exact perm
  refine ⟨?_, ?_, fun d => ?_, fun x => ?_⟩
  · refine (ScanLoop.ledger_settles idle distinct countable).imp ?_
    rintro m ⟨ended, past, ledger⟩
    exact h.sameRows distinct countable done idle ledger ended
  · exact imports.nodup_iff.2 h.logged.once
  · rw [imports.mem_iff, List.mem_map]
    constructor
    · rintro ⟨r, hr, rfl⟩
      have new := h.logged.new r hr
      exact ⟨new.digest, new.parses⟩
    · rintro ⟨new, a, mem, rfl, book, read⟩
      obtain ⟨r, derived⟩ := exists_record settings read
      have derived := recordOf_ok_iff.2 ⟨book, read, derived⟩
      have known := (h.mem_records distinct countable done r).2 ⟨a, mem, new, derived⟩
      exact ⟨r, known, contentHash_recordOf derived⟩
  · obtain ⟨l, running, ended⟩ := done x
    obtain ⟨before, alone, past, mirrored⟩ := h.mirrored x l running
    have settles := ScanLoop.ledger_settles idle (distinctIds_alone distinct x)
      (countable_side countable x)
    refine (agree x).symm.settles (settles.imp ?_)
    rintro m ⟨ended', past', ledger⟩
    rw [summary_eq running]
    exact mirrored.failures distinct countable h.logged ended idle ledger ended'

/-- However two scans are interleaved that share a store, each of them comes to its end, and what
they leave is the outcome of one scan of all files. Each decides by a snapshot that the other one
makes stale, so both may derive the record of one digest; the store takes it once. -/
theorem shared_outcome {σ : Side → ScanSettings} (history : Store.History .empty s)
    (agree : ∀ x, (σ x).Agree settings)
    (distinct : DistinctIds settings s.tables (allFiles files))
    (countable : ∀ a ∈ contentsOf (allFiles files), ∀ r, recordOf settings a = .ok r →
      r.Countable) : Settles σ files (Outcome settings σ s files) (start s) := by
  have idle := history.idle Store.idle_empty
  let inv (w : Shared) : Prop := ∃ log, Accounts settings s files w log
  have begin : inv (start s) := ⟨[], accounts_start settings files idle⟩
  refine settles_of_invariant begin ?_ ?_ ?_
  · rintro w v ⟨log, h⟩ step
    exact h.step distinct countable agree step
  · rintro w ⟨log, h⟩
    exact h.fine distinct countable
  · rintro w ⟨log, h⟩ done
    exact h.outcome done idle agree distinct countable

/-- Two scans of two files with one book and one file without, by one and by four workers: one of
them imports the book. -/
theorem shared_outcome_leafFiles :
    Settles (fun x => leafSettings (if x = .left then 1 else 4)) (fun _ => leafFiles)
      (fun w => Outcome (leafSettings 4) (fun x => leafSettings (if x = .left then 1 else 4)) shelf
          (fun _ => leafFiles) w ∧
        ((w.summary .left).imported ++ (w.summary .right).imported).length = 1)
      (start shelf) := by
  obtain ⟨r, one, fresh, countable⟩ := exists_leafRecord 4
  have same : ∀ a, a ∈ contentsOf (allFiles fun _ => leafFiles) ↔ a ∈ contentsOf leafFiles := by
    intro a
    rw [mem_contentsOf_allFiles]
    exact ⟨fun ⟨_, mem⟩ => mem, fun mem => ⟨.left, mem⟩⟩
  have all := one.of_contents same
  have books := distinctBooks_leafFiles 4
  simp only [← same] at books
  have settles : Settles (fun x => leafSettings (if x = .left then 1 else 4)) (fun _ => leafFiles)
      (Outcome (leafSettings 4) _ shelf _) (start shelf) :=
    shared_outcome history_shelf (fun _ => ⟨rfl, rfl⟩) (all.distinctIds books fresh)
      (all.countable countable)
  refine settles.imp fun w outcome => ?_
  refine ⟨outcome, ?_⟩
  have digests := eq_singleton_of_nodup outcome.once ((outcome.imported _).2
    ⟨?_, Epub.leaf, all.mem, rfl, _, Epub.read_leaf⟩) fun d mem => ?_
  · rw [← List.length_map (f := (·.contentHash)), digests]
    rfl
  · rw [Tables.mem_contentHashes, ← contentHash_recordOf one.derived]
    exact fresh.digest
  · obtain ⟨_, a, inside, rfl, x, read⟩ := (outcome.imported d).1 mem
    obtain ⟨q, derived⟩ := exists_record (leafSettings 4) read
    rw [all.only a inside q (recordOf_ok_iff.2 ⟨x, read, derived⟩)]

end Shared
end EpubLibrary
