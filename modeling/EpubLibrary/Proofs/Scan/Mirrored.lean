import EpubLibrary.Proofs.Scan.Outcome
import EpubLibrary.Proofs.Scan.Shared

/-!
# Scans that mirror a scan alone

Of two scans that share a store, the one that collects a new record first imports it; the other one,
for which it was new by a snapshot that is stale, finds it held. So each goes through what it would
go through alone from the store of its snapshot (`Mirrored`).
-/

namespace EpubLibrary

open Epub (ExtractedBook)

/-! ## Records of new content -/

/-- Is a record that of content of the files whose digest is not stored? -/
def NewRecord (settings : ScanSettings) (s : Store) (files : List Source) (r : BookRecord) : Prop :=
  ∃ a ∈ contentsOf files, contentDigest a ∉ s.tables.contentHashes ∧ recordOf settings a = .ok r

section
variable {settings : ScanSettings} {s t : Store} {files part : List Source}
  {r q : BookRecord} {rs : List BookRecord}

theorem NewRecord.digest (h : NewRecord settings s files r) :
    r.book.contentHash ∉ s.tables.contentHashes := by
  obtain ⟨a, _, new, derived⟩ := h
  rw [contentHash_recordOf derived]
  exact new

theorem NewRecord.parses (h : NewRecord settings s files r) :
    ∃ a ∈ contentsOf files, contentDigest a = r.book.contentHash ∧
      ∃ x, ExtractedBook.read a = .ok x := by
  obtain ⟨a, mem, _, derived⟩ := h
  obtain ⟨x, read, _⟩ := recordOf_ok_iff.1 derived
  exact ⟨a, mem, (contentHash_recordOf derived).symm, x, read⟩

variable (distinct : DistinctIds settings s.tables files)
include distinct

/-- Digests tell contents apart, so content with the digest of a record is that of the record. -/
theorem NewRecord.recordOf_eq (h : NewRecord settings s files r) {b : Bytes}
    (mem : b ∈ contentsOf files) (same : contentDigest b = r.book.contentHash) :
    recordOf settings b = .ok r := by
  obtain ⟨a, memA, _, derived⟩ := h
  obtain ⟨f, hf, content⟩ := mem_contentsOf.1 memA
  obtain ⟨g, hg, content'⟩ := mem_contentsOf.1 mem
  rw [contentHash_recordOf derived] at same
  obtain rfl := distinct.tellApart g hg f hf b a content' content same
  exact derived

/-- A digest has one new record. -/
theorem NewRecord.eq_of_digest (h : NewRecord settings s files r)
    (h' : NewRecord settings s files q) (same : r.book.contentHash = q.book.contentHash) :
    r = q := by
  obtain ⟨b, mem, _, derived⟩ := h'
  rw [contentHash_recordOf derived] at same
  exact Except.ok.inj ((h.recordOf_eq distinct mem same.symm).symm.trans derived)

theorem NewRecord.apart (h : NewRecord settings s files r) (h' : NewRecord settings s files q)
    (other : r ≠ q) : r.Apart q := by
  have ne : r.book.contentHash ≠ q.book.contentHash := fun same =>
    other (h.eq_of_digest distinct h' same)
  obtain ⟨a, memA, _, derived⟩ := h
  obtain ⟨b, memB, _, derived'⟩ := h'
  obtain ⟨f, hf, content⟩ := mem_contentsOf.1 memA
  obtain ⟨g, hg, content'⟩ := mem_contentsOf.1 memB
  rw [contentHash_recordOf derived, contentHash_recordOf derived'] at ne
  exact distinct.apart hf hg content content' derived derived' ne

/-- Nothing of a new record is taken once others were put in. -/
theorem NewRecord.fresh (h : NewRecord settings s files r)
    (all : ∀ q ∈ rs, NewRecord settings s files q) (absent : r ∉ rs) :
    r.Fresh (s.plusAll rs).tables := by
  have apart : ∀ q ∈ rs, r.Apart q := by
    intro q hq
    apply h.apart distinct (all q hq)
    rintro rfl
    exact absent hq
  obtain ⟨a, mem, new, derived⟩ := h
  exact (distinct.fresh a mem new r derived).plusAll apart

/-- What is distinct stays so for some of the files, once records of others were put in. -/
theorem DistinctIds.later (all : ∀ q ∈ rs, NewRecord settings s files q)
    (some : ∀ a ∈ contentsOf part, a ∈ contentsOf files) :
    DistinctIds settings (s.plusAll rs).tables part where
  books := fun a ha b hb => distinct.books a (some a ha) b (some b hb)
  chapters := fun a ha b hb => distinct.chapters a (some a ha) b (some b hb)
  toc := fun a ha b hb => distinct.toc a (some a ha) b (some b hb)
  fresh := by
    intro a ha new r derived
    rw [Store.plusAll, Tables.mem_contentHashes_plusAll, not_or] at new
    refine NewRecord.fresh distinct ⟨a, some a ha, new.1, derived⟩ all fun mem => new.2 ⟨r, mem, ?_⟩
    exact contentHash_recordOf derived

/-- The scan that collects a record first imports it. -/
theorem importBook_first
    (countable : ∀ a ∈ contentsOf files, ∀ r, recordOf settings a = .ok r → r.Countable)
    (idle : t.Idle) (grown : t = s.plusAll rs) (h : NewRecord settings s files r)
    (all : ∀ q ∈ rs, NewRecord settings s files q) (absent : r ∉ rs) :
    t.importBook r = (.ok true, t.plusAll [r]) := by
  have fresh := h.fresh distinct all absent
  rw [← grown] at fresh
  obtain ⟨a, mem, _, derived⟩ := h
  exact importBook_new idle ⟨fresh, countable a mem r derived, _, shaped_recordOf derived⟩

omit distinct in
/-- A scan that collects it again leaves the store as it is. -/
theorem importBook_again (idle : t.Idle) (grown : t = s.plusAll rs) (mem : r ∈ rs) :
    t.importBook r = (.ok false, t) := by
  have held : t.tables.Holds r.draft := by
    refine ⟨r.book, ?_, rfl, rfl⟩
    rw [grown, Store.plusAll, Tables.books_plusAll]
    exact List.mem_append_right _ (List.mem_map_of_mem mem)
  rw [Store.importBook, Store.importDraft_idle idle.isOpen idle.isIdle,
    Tables.importDraft_held idle.valid held]

end

/-! ## Scans that do the same -/

/-- Have two scans the same files waiting, running and prepared, and the same claims? -/
structure ScanLoop.Alike (l m : ScanLoop) : Prop where
  waiting : l.waiting = m.waiting
  running : l.running = m.running
  ready : l.ready = m.ready
  reconciler : l.reconciler = m.reconciler

namespace ScanLoop.Alike

variable {l m : ScanLoop}

theorem fill (h : l.Alike m) (n : Nat) : (l.fill n).Alike (m.fill n) := by
  constructor
  · simp only [ScanLoop.fill, inFlight, h.waiting, h.running, h.ready]
  · simp only [ScanLoop.fill, inFlight, h.waiting, h.running, h.ready]
  · exact h.ready
  · exact h.reconciler

theorem prepareAt (h : l.Alike m) (settings : ScanSettings) (i : Nat) :
    (l.prepareAt settings i).Alike (m.prepareAt settings i) := by
  unfold ScanLoop.prepareAt
  rw [h.running]
  split
  · exact h
  · rw [h.reconciler]
    exact ⟨h.waiting, rfl, congrArg (· ++ _) h.ready, rfl⟩

theorem collectAt (h : l.Alike m) (i : Nat) : (l.collectAt i).2.Alike (m.collectAt i).2 := by
  obtain ⟨waiting, running, ready, reconciler⟩ := l.collectAt_frame i
  obtain ⟨waiting', running', ready', reconciler'⟩ := m.collectAt_frame i
  constructor
  · rw [waiting, waiting', h.waiting]
  · rw [running, running', h.running]
  · rw [ready, ready', h.ready]
  · rw [reconciler, reconciler', h.reconciler]

theorem isDone (h : l.Alike m) (done : l.IsDone) : m.IsDone :=
  ⟨h.waiting ▸ done.1, h.running ▸ done.2.1, h.ready ▸ done.2.2⟩

end ScanLoop.Alike

namespace Shared

/-- What was imported so far, and by which scan. -/
abbrev Log := List (Side × BookRecord)

def Log.records (log : Log) : List BookRecord := log.map (·.2)

def Log.booksOf (log : Log) (x : Side) : List Book := (log.filter (·.1 = x)).map (·.2.book)

def Log.add (log : Log) (x : Side) (more : List BookRecord) : Log := log ++ more.map (x, ·)

@[simp] theorem Log.add_nil (log : Log) (x : Side) : log.add x [] = log := by
  rw [Log.add, List.map_nil, List.append_nil]

@[simp] theorem Log.records_add (log : Log) (x : Side) (more : List BookRecord) :
    (log.add x more).records = log.records ++ more := by
  simp [Log.records, Log.add, Function.comp_def]

@[simp] theorem Log.booksOf_add_self (log : Log) (x : Side) (more : List BookRecord) :
    (log.add x more).booksOf x = log.booksOf x ++ more.map (·.book) := by
  simp [Log.booksOf, Log.add, List.filter_map, Function.comp_def]

theorem Log.booksOf_add_other (log : Log) {x y : Side} (other : y ≠ x) (more : List BookRecord) :
    (log.add x more).booksOf y = log.booksOf y := by
  simp [Log.booksOf, Log.add, List.filter_map, Function.comp_def, other.symm]

/-- Every import is that of one of the scans. -/
theorem Log.booksOf_perm (log : Log) :
    (log.booksOf .left ++ log.booksOf .right).Perm (log.records.map (·.book)) := by
  have sides : log.filter (·.1 = .right) = log.filter fun e => !decide (e.1 = .left) := by
    refine List.filter_congr fun e _ => ?_
    cases e.1 <;> rfl
  rw [booksOf, booksOf, sides, ← List.map_append, records, List.map_map]
  exact (List.filter_append_perm _ log).map _

def allFiles (files : Side → List Source) : List Source := files .left ++ files .right

theorem mem_contentsOf_allFiles {files : Side → List Source} {a : Bytes} :
    a ∈ contentsOf (allFiles files) ↔ ∃ x, a ∈ contentsOf (files x) := by
  simp only [allFiles, mem_contentsOf, List.mem_append]
  constructor
  · rintro ⟨f, left | right, content⟩
    · exact ⟨.left, f, left, content⟩
    · exact ⟨.right, f, right, content⟩
  · rintro ⟨x, f, mem, content⟩
    cases x with
    | left => exact ⟨f, .inl mem, content⟩
    | right => exact ⟨f, .inr mem, content⟩

section
variable {settings : ScanSettings} {s : Store} {files : Side → List Source}

theorem countable_side
    (countable : ∀ a ∈ contentsOf (allFiles files), ∀ r, recordOf settings a = .ok r → r.Countable)
    (x : Side) : ∀ a ∈ contentsOf (files x), ∀ r, recordOf settings a = .ok r → r.Countable :=
  fun a ha => countable a (mem_contentsOf_allFiles.2 ⟨x, ha⟩)

/-- What is distinct among all files is so among those of one scan, whatever new records were put
in. -/
theorem distinctIds_side (distinct : DistinctIds settings s.tables (allFiles files))
    {before : List BookRecord} (all : ∀ q ∈ before, NewRecord settings s (allFiles files) q)
    (x : Side) : DistinctIds settings (s.plusAll before).tables (files x) :=
  distinct.later all fun _ ha => mem_contentsOf_allFiles.2 ⟨x, ha⟩

theorem distinctIds_alone (distinct : DistinctIds settings s.tables (allFiles files)) (x : Side) :
    DistinctIds settings s.tables (files x) := by
  have none : ∀ q ∈ ([] : List BookRecord), NewRecord settings s (allFiles files) q := by simp
  exact distinctIds_side distinct none x

end

/-- The store holds what it held before both scans, and what is in the log: new records, each
once. -/
structure Logged (settings : ScanSettings) (s : Store) (files : Side → List Source) (log : Log)
    (t : Store) : Prop where
  grown : t = s.plusAll log.records
  idle : t.Idle
  once : (log.records.map (·.book.contentHash)).Nodup
  new : ∀ r ∈ log.records, NewRecord settings s (allFiles files) r

/-- A scan under way goes through what another one, `alone`, goes through from the store of its
snapshot. What that one imported is in the log, though maybe not by this scan. -/
structure Mirrored (settings : ScanSettings) (s : Store) (files : Side → List Source) (log : Log)
    (x : Side) (l : ScanLoop) (before : List BookRecord) (alone : ScanLoop)
    (past : List Collected) : Prop where
  snapshot : before ⊆ log.records
  idle : (s.plusAll before).Idle
  ledger : ScanLoop.Ledger settings (s.plusAll before).tables.contentHashes (s.plusAll before)
    (files x) alone past
  alike : l.Alike alone
  failed : l.summary.failed = past.filterMap (·.failure?)
  stored : ∀ c ∈ past, ∀ r, c.record? = some r → r ∈ log.records

variable {settings : ScanSettings} {s t : Store} {files : Side → List Source} {log : Log}
  {x y : Side} {l alone : ScanLoop} {before : List BookRecord} {past : List Collected}

/-- A scan begins alone. -/
theorem Logged.mirrored (h : Logged settings s files log t) (x : Side) :
    Mirrored settings s files log x (.start t.tables.contentHashes t (files x)) log.records
      (.start t.tables.contentHashes t (files x)) [] where
  snapshot := fun _ hr => hr
  idle := h.grown ▸ h.idle
  ledger := by
    rw [← h.grown]
    exact ScanLoop.ledger_start settings _ t (files x)
  alike := ⟨rfl, rfl, rfl, rfl⟩
  failed := rfl
  stored := by
    intro c hc
    cases hc

/-- What is imported next, by either scan, changes nothing of it. -/
theorem Mirrored.add (h : Mirrored settings s files log x l before alone past) (y : Side)
    (more : List BookRecord) :
    Mirrored settings s files (log.add y more) x l before alone past where
  snapshot := by
    intro r hr
    rw [Log.records_add]
    exact List.mem_append_left _ (h.snapshot hr)
  idle := h.idle
  ledger := h.ledger
  alike := h.alike
  failed := h.failed
  stored := by
    intro c hc r record
    rw [Log.records_add]
    exact List.mem_append_left _ (h.stored c hc r record)

theorem Mirrored.on (h : Mirrored settings s files log x l before alone past) (t : Store) :
    Mirrored settings s files log x (l.on t) before alone past where
  snapshot := h.snapshot
  idle := h.idle
  ledger := h.ledger
  alike := ⟨h.alike.waiting, h.alike.running, h.alike.ready, h.alike.reconciler⟩
  failed := h.failed
  stored := h.stored

theorem Mirrored.take (h : Mirrored settings s files log x l before alone past) (n : Nat) :
    Mirrored settings s files log x (l.fill n) before (alone.fill n) past where
  snapshot := h.snapshot
  idle := h.idle
  ledger := h.ledger.take n
  alike := h.alike.fill n
  failed := h.failed
  stored := h.stored

theorem Mirrored.prepare (h : Mirrored settings s files log x l before alone past) {i : Nat}
    (taken : i < l.running.length) : Mirrored settings s files log x (l.prepareAt settings i) before
      (alone.prepareAt settings i) past where
  snapshot := h.snapshot
  idle := h.idle
  ledger := by
    rw [h.alike.running] at taken
    exact h.ledger.prepare taken
  alike := h.alike.prepareAt settings i
  failed := by
    rw [ScanLoop.prepareAt_eq settings (List.getElem?_eq_getElem taken)]
    exact h.failed
  stored := h.stored

/-! ## Collecting -/

section
variable (distinct : DistinctIds settings s.tables (allFiles files))
  (countable : ∀ a ∈ contentsOf (allFiles files), ∀ r, recordOf settings a = .ok r → r.Countable)
include distinct countable

/-- A new record that is not in the log is imported. -/
theorem Logged.first (h : Logged settings s files log t) {r : BookRecord}
    (new : NewRecord settings s (allFiles files) r) (absent : r ∉ log.records) (x : Side) :
    t.importBook r = (.ok true, t.plusAll [r]) ∧
      Logged settings s files (log.add x [r]) (t.plusAll [r]) := by
  have answer := importBook_first distinct countable h.idle h.grown new h.new absent
  refine ⟨answer, ?_, ?_, ?_, ?_⟩
  · rw [Log.records_add, Store.plusAll_append, ← h.grown]
  · have idle := h.idle.importBook r
    rw [answer] at idle
    exact idle
  · rw [Log.records_add]
    refine (Tables.nodup_map_concat h.once r).2 fun mem => ?_
    obtain ⟨q, hq, same⟩ := List.mem_map.1 mem
    exact absent (new.eq_of_digest distinct (h.new q hq) same.symm ▸ hq)
  · intro q hq
    rw [Log.records_add] at hq
    rcases List.mem_append.1 hq with old | this
    · exact h.new q old
    · rw [List.mem_singleton.1 this]
      exact new

/-- What collecting a prepared file on the shared store comes to. The verdict is that of a scan
alone, apart from who imported a record. -/
structure Collects (settings : ScanSettings) (s : Store) (files : Side → List Source) (log : Log)
    (x : Side) (l : ScanLoop) (c : Collected) (more : List BookRecord)
    (answer : Option StoreError × ScanLoop) : Prop where
  fine : answer.1 = none
  logged : Logged settings s files (log.add x more) answer.2.store
  imported : answer.2.summary.imported = l.summary.imported ++ more.map (·.book)
  failed : answer.2.summary.failed = l.summary.failed ++ c.failure?.toList
  stored : ∀ r, c.record? = some r → r ∈ log.records ++ more

/-- Whatever was prepared, collecting it comes to what it comes to alone. -/
theorem Logged.judge (h : Logged settings s files log l.store) (x : Side) (f : Source)
    {prepared : Prepared}
    (new : ∀ r, prepared = .record r → NewRecord settings s (allFiles files) r) :
    ∃ more, Collects settings s files log x l ⟨f, prepared, prepared.verdict⟩ more
      (l.judge f prepared) := by
  have same : Logged settings s files (log.add x []) l.store := by
    rw [Log.add_nil]
    exact h
  cases prepared with
  | unchanged =>
    refine ⟨[], rfl, same, ?_, ?_, ?_⟩
    · simp [ScanLoop.judge, ScanLoop.keep]
    · simp [ScanLoop.judge, ScanLoop.keep, Prepared.verdict, Collected.failure?]
    · simp [Prepared.verdict, Collected.record?]
  | failed cause =>
    refine ⟨[], rfl, same, ?_, ?_, ?_⟩
    · simp [ScanLoop.judge, ScanLoop.fail]
    · simp [ScanLoop.judge, ScanLoop.fail, Prepared.verdict, Collected.failure?]
    · simp [Prepared.verdict, Collected.record?]
  | record r =>
    by_cases known : r ∈ log.records
    · have answer := importBook_again h.idle h.grown known
      refine ⟨[], ?_, ?_, ?_, ?_, ?_⟩
      · simp only [ScanLoop.judge, ScanLoop.commit, answer]
      · simpa only [ScanLoop.judge, ScanLoop.commit, answer, ScanLoop.keep] using same
      · simp [ScanLoop.judge, ScanLoop.commit, answer, ScanLoop.keep]
      · simp [ScanLoop.judge, ScanLoop.commit, answer, ScanLoop.keep, Prepared.verdict,
          Collected.failure?]
      · simpa [Prepared.verdict, Collected.record?] using known
    · obtain ⟨answer, logged⟩ := h.first distinct countable (new r rfl) known x
      refine ⟨[r], ?_, ?_, ?_, ?_, ?_⟩
      · simp only [ScanLoop.judge, ScanLoop.commit, answer]
      · simpa only [ScanLoop.judge, ScanLoop.commit, answer] using logged
      · simp [ScanLoop.judge, ScanLoop.commit, answer]
      · simp [ScanLoop.judge, ScanLoop.commit, answer, Prepared.verdict, Collected.failure?]
      · simp [Prepared.verdict, Collected.record?]

omit countable in
theorem Mirrored.distinctIds (h : Mirrored settings s files log x l before alone past)
    (logged : Logged settings s files log t) :
    DistinctIds settings (s.plusAll before).tables (files x) :=
  distinctIds_side distinct (fun q hq => logged.new q (h.snapshot hq)) x

omit distinct countable in
/-- What is new to the snapshot was new before both scans. -/
theorem Mirrored.newRecord (h : Mirrored settings s files log x l before alone past) {f : Source}
    {r : BookRecord} (mem : (f, Prepared.record r) ∈ l.ready) :
    NewRecord settings s (allFiles files) r := by
  rw [h.alike.ready] at mem
  have seen : (f, Prepared.record r) ∈ alone.seen past := List.mem_append_left _ mem
  obtain ⟨a, content, new, derived⟩ := (h.ledger.claims.answers _ seen).record
  have own := mem_contentsOf.2 ⟨f, h.ledger.seen_mem seen, content⟩
  refine ⟨a, mem_contentsOf_allFiles.2 ⟨x, own⟩, fun old => new ?_, derived⟩
  rw [Store.plusAll, Tables.mem_contentHashes_plusAll]
  exact .inl old

/-- A scan alone collects the same file, and has the same verdict about it. -/
theorem Mirrored.collect (h : Mirrored settings s files log x l before alone past)
    (logged : Logged settings s files log l.store) {i : Nat} (prepared : i < l.ready.length) :
    ∃ more c, Collects settings s files log x l c more (l.collectAt i) ∧
      Mirrored settings s files (log.add x more) x (l.collectAt i).2 before
        (alone.collectAt i).2 (past ++ [c]) := by
  have apart := h.distinctIds distinct logged
  have short := countable_side countable x
  rw [h.alike.ready] at prepared
  obtain ⟨c, at_i, ledger⟩ := h.ledger.collect prepared (h.ledger.fine h.idle apart short i)
  have verdict := ledger.verdicts h.idle apart short c (by simp)
  -- The scan alone meets no collision, so what was prepared decides its verdict.
  obtain ⟨f, prepared, _⟩ := c
  dsimp only at verdict
  subst verdict
  rw [← h.alike.ready] at at_i
  obtain ⟨more, collects⟩ : ∃ more, Collects settings s files log x l
      ⟨f, prepared, prepared.verdict⟩ more (l.collectAt i) := by
    have new : ∀ r, prepared = .record r → NewRecord settings s (allFiles files) r := by
      rintro r rfl
      exact h.newRecord (List.mem_of_getElem? at_i)
    rw [ScanLoop.collectAt_eq at_i]
    obtain ⟨more, fine, logged, imported, failed, stored⟩ :=
      Logged.judge distinct countable (l := { l with ready := l.ready.eraseIdx i }) logged x f new
    exact ⟨more, fine, logged, imported, failed, stored⟩
  have carried := h.add x more
  refine ⟨more, _, collects, carried.snapshot, h.idle, ledger, h.alike.collectAt i, ?_, ?_⟩
  · rw [collects.failed, h.failed, List.filterMap_append]
    cases eq : Collected.failure? ⟨f, prepared, prepared.verdict⟩ <;> simp [eq]
  · intro c hc r record
    rcases List.mem_append.1 hc with old | this
    · exact carried.stored c old r record
    · rw [List.mem_singleton.1 this] at record
      rw [Log.records_add]
      exact collects.stored r record

end

end Shared
end EpubLibrary
