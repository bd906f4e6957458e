import EpubLibrary.Proofs.Lookup
import EpubLibrary.Proofs.Scan.Copies

namespace EpubLibrary

open Epub (ExtractedBook)

/-- What becomes of a prepared file if nothing of its record is taken. -/
def Prepared.verdict : Prepared → Verdict
  | .unchanged => .kept
  | .record r => .imported r
  | .failed cause => .failed cause

/-- A record that can be imported into the tables. -/
structure BookRecord.New (r : BookRecord) (t : Tables) : Prop where
  fresh : r.Fresh t
  countable : r.Countable
  shaped : ∃ bookId, r.Shaped bookId

/-- A new record is added to a library. -/
theorem importBook_new {s : Store} {r : BookRecord} (idle : s.Idle) (new : r.New s.tables) :
    s.importBook r = (.ok true, s.plusAll [r]) := by
  obtain ⟨bookId, shape⟩ := new.shaped
  exact Store.importBook_fresh idle.toSound idle.isIdle shape new.fresh new.countable

/-- Records that are new and apart from each other are all imported. -/
theorem replay_imports {s t : Store} {past : List Collected} (replay : Replay s past t)
    (idle : s.Idle) (new : ∀ c ∈ past, ∀ r, c.prepared = .record r → r.New s.tables)
    (apart : past.Pairwise fun c d => ∀ q r, c.prepared = .record q → d.prepared = .record r →
      r.Apart q) : ∀ c ∈ past, c.verdict = c.prepared.verdict := by
  induction replay with
  | nil =>
    intro c hc
    cases hc
  | @snoc past c t u before last ih =>
    rw [List.pairwise_append] at apart
    have earlier := ih (fun c hc => new c (List.mem_append_left _ hc)) apart.1
    intro d hd
    rcases List.mem_append.1 hd with old | this
    · exact earlier d old
    · obtain rfl := List.mem_singleton.1 this
      obtain ⟨sound, grown⟩ := before.grows idle.toSound
      have imports {r : BookRecord} (gives : d.prepared = .record r) :
          t.importBook r = (.ok true, t.plusAll [r]) := by
        have stillNew := new d hd r gives
        refine importBook_new (idle.plusAll sound grown) { stillNew with fresh := ?_ }
        rw [grown]
        refine stillNew.fresh.plusAll fun q hq => ?_
        obtain ⟨c, hc, record⟩ := List.mem_filterMap.1 hq
        obtain ⟨_, _, judged⟩ := before.judged hc
        exact apart.2.2 c hc d this q r (judged.record record) gives
      cases last with
      | unchanged => rfl
      | failed => rfl
      | imported => rfl
      | held answer => simp [imports rfl] at answer
      | collided answer => simp [imports rfl] at answer

theorem forall₂_filterMap {α β γ : Type} {R : γ → β → Prop} {f : α → Option β} {g : α → γ}
    {l : List α} (each : ∀ a ∈ l, ∀ b, f a = some b → R (g a) b) :
    List.Forall₂ R ((l.filter fun a => (f a).isSome).map g) (l.filterMap f) := by
  induction l with
  | nil => exact .nil
  | cons a l ih =>
    have rest := ih fun a ha => each a (List.mem_cons_of_mem _ ha)
    cases eq : f a with
    | none =>
      rw [List.filterMap_cons_none eq, List.filter_cons_of_neg (by simp [eq])]
      exact rest
    | some b =>
      rw [List.filterMap_cons_some eq, List.filter_cons_of_pos (by simp [eq])]
      exact .cons (each a List.mem_cons_self b eq) rest

/-- What a scan of the files from a store leaves and reports when it has ended: the records of all
new contents that parse, and the files of all new contents that do not. -/
structure Outcome (settings : ScanSettings) (s : Store) (files : List Source) (l : ScanLoop)
    (records : List BookRecord) (failing : List Source) : Prop where
  store : l.store = s.plusAll records
  digests : (records.map (·.book.contentHash)).Nodup
  derived : ∀ r, r ∈ records ↔ ∃ a ∈ contentsOf files, contentDigest a ∉ s.tables.contentHashes ∧
    ∃ x, ExtractedBook.read a = .ok x ∧
      BookRecord.derive x (contentDigest a) settings.root settings.compressionLevel = .ok r
  parsed : ∀ a ∈ contentsOf files, contentDigest a ∉ s.tables.contentHashes → ∀ x,
    ExtractedBook.read a = .ok x → ∃ r ∈ records,
      BookRecord.derive x (contentDigest a) settings.root settings.compressionLevel = .ok r
  failingDigests : (failing.map (·.digest?)).Nodup
  unparsed : ∀ d, some d ∈ failing.map (·.digest?) ↔ d ∉ s.tables.contentHashes ∧
    ∃ a ∈ contentsOf files, contentDigest a = d ∧ ∃ e, ExtractedBook.read a = .error e
  walked : ∀ f ∈ failing, f ∈ files
  imported : (l.report none).imported = records.map (·.book)
  failed : List.Forall₂ (fun f failure => failure.path = f.path ∧
    ∃ a e, f.content = .ok a ∧ ExtractedBook.read a = .error e ∧ failure.cause = .extract e)
    failing (l.report none).failed
  unchanged : (l.report none).imported.length + (l.report none).unchanged +
    (l.report none).failed.length = files.length
  orphaned : ∀ b, b ∈ (l.report none).orphaned ↔
    b ∈ s.tables.books ∧ ∀ f ∈ files, f.digest? ≠ some b.contentHash
  ascending : ((l.report none).orphaned.map (·.contentHash)).Pairwise (· < ·)
  cancelled : (l.report none).cancelled = false

/-- Of files with one book among them that book is imported, once. -/
theorem Outcome.records_eq {settings : ScanSettings} {s : Store} {files : List Source} {l : ScanLoop}
    {records : List BookRecord} {failing : List Source} {bytes : Bytes}
    {r : BookRecord} (h : Outcome settings s files l records failing)
    (one : OneBook settings files bytes r) (new : contentDigest bytes ∉ s.tables.contentHashes) :
    records = [r] := by
  obtain ⟨x, read, made⟩ := recordOf_ok_iff.1 one.derived
  have mem := (h.derived r).2 ⟨bytes, one.mem, new, x, read, made⟩
  refine eq_singleton_of_nodup (.of_map _ h.digests) mem fun q other => ?_
  obtain ⟨a, inside, _, y, read, made⟩ := (h.derived q).1 other
  exact one.record_eq inside (recordOf_ok_iff.2 ⟨y, read, made⟩)

namespace ScanLoop

variable {settings : ScanSettings} {s : Store} {files : List Source} {l : ScanLoop}
  {past : List Collected}

/-! ## Orphans -/

/-- The books that are reported are those stored before whose digest no file has. -/
theorem Ledger.mem_orphans (h : Ledger settings s.tables.contentHashes s files l past)
    (sound : s.Sound) (done : l.IsDone) (b : Book) : b ∈ l.orphans ↔
      b ∈ s.tables.books ∧ ∀ f ∈ files, f.digest? ≠ some b.contentHash := by
  obtain ⟨soundNow, grown⟩ := h.replay.grows sound
  have old (c : Book) (hc : c ∈ s.tables.books) : c ∈ l.store.tables.books := by
    rw [grown]
    simp [Store.plusAll, hc]
  have missing (d : String) : d ∉ l.reconciler.found ↔ ∀ f ∈ files, f.digest? ≠ some d := by
    rw [h.found_iff done]
    simp
  rw [orphans, List.mem_filterMap]
  simp only [← DigestSet.mem_def, Reconciler.orphaned, DigestSet.mem_diff, h.claims.stored,
    Tables.mem_contentHashes, soundNow.valid.bookByHash?_iff, missing]
  constructor
  · rintro ⟨d, ⟨stored, absent⟩, mem, rfl⟩
    obtain ⟨c, hc, same⟩ := List.mem_map.1 stored
    rw [← soundNow.valid.book_unique (old c hc) mem same]
    rw [same]
    exact ⟨hc, absent⟩
  · rintro ⟨mem, absent⟩
    exact ⟨_, ⟨List.mem_map_of_mem mem, absent⟩, old b mem, rfl⟩

theorem orphans_ascending (l : ScanLoop) :
    (l.orphans.map (·.contentHash)).Pairwise (· < ·) := by
  refine List.pairwise_map.2 (List.pairwise_filterMap.2 ?_)
  refine l.reconciler.orphaned.sorted.imp fun {d e} lt b hb c hc => ?_
  have digest := Option.some.inj (Tables.bookByHash?_mem hb).2
  have digest' := Option.some.inj (Tables.bookByHash?_mem hc).2
  rw [← digest, ← digest']
  exact lt

/-! ## Verdicts -/

section
variable (h : Ledger settings s.tables.contentHashes s files l past) (idle : s.Idle)
  (distinct : DistinctIds settings s.tables files)
  (countable : ∀ a ∈ contentsOf files, ∀ r, recordOf settings a = .ok r → r.Countable)
include h distinct

/-- The records of prepared files are apart from each other. -/
theorem Ledger.apart : (l.seen past).Pairwise fun x y =>
    ∀ q r, x.2 = .record q → y.2 = .record r → r.Apart q := by
  refine List.Pairwise.imp_of_mem ?_ (List.pairwise_filterMap.1 h.claims.once)
  rintro ⟨f, prepared⟩ ⟨g, prepared'⟩ hf hg differ q r rfl rfl
  obtain ⟨a, ha, _, hq⟩ := (h.claims.answers _ hf).record
  obtain ⟨b, hb, _, hr⟩ := (h.claims.answers _ hg).record
  have owns : owned? (f, .record q) = some (contentDigest a) :=
    owned?_eq_some.2 ⟨by simp, digest?_eq_some.2 ⟨a, ha, rfl⟩⟩
  have owns' : owned? (g, .record r) = some (contentDigest b) :=
    owned?_eq_some.2 ⟨by simp, digest?_eq_some.2 ⟨b, hb, rfl⟩⟩
  have ne := differ _ owns _ owns'
  exact (distinct.apart (h.seen_mem hf) (h.seen_mem hg) ha hb hq hr ne).symm

include countable

theorem Ledger.new {f : Source} {r : BookRecord} (mem : (f, Prepared.record r) ∈ l.seen past) :
    r.New s.tables := by
  obtain ⟨a, ha, new, hr⟩ := (h.claims.answers _ mem).record
  have content := mem_contentsOf.2 ⟨f, h.seen_mem mem, ha⟩
  exact ⟨distinct.fresh a content new r hr, countable a content r hr, _, shaped_recordOf hr⟩

include idle

theorem Ledger.verdicts : ∀ c ∈ past, c.verdict = c.prepared.verdict := by
  refine replay_imports h.replay idle (fun c hc r gives => ?_) ?_
  · refine h.new distinct countable (f := c.source) ?_
    rw [← gives]
    exact List.mem_append_right _ (List.mem_map_of_mem (f := (·.claim)) hc)
  · have apart := (List.pairwise_append.1 (h.apart distinct)).2.1
    exact List.pairwise_map.1 apart

/-- No record that is collected aborts the scan. -/
theorem Ledger.fine (i : Nat) : (l.collectAt i).1 = none := by
  cases at_i : l.ready[i]? with
  | none => rw [collectAt_none at_i]
  | some x =>
    obtain ⟨f, prepared⟩ := x
    rw [collectAt_eq at_i]
    refine judge_fine ?_
    rintro r rfl
    have mem := List.mem_of_getElem? at_i
    have new := h.new distinct countable (List.mem_append_left _ mem)
    obtain ⟨sound, grown⟩ := h.replay.grows idle.toSound
    have stillNew : r.New l.store.tables := by
      refine { new with fresh := ?_ }
      rw [grown]
      refine new.fresh.plusAll fun q hq => ?_
      obtain ⟨c, hc, record⟩ := List.mem_filterMap.1 hq
      obtain ⟨_, _, judged⟩ := h.replay.judged hc
      have apart := (List.pairwise_append.1 (h.apart distinct)).2.2 _ mem _
        (List.mem_map_of_mem (f := (·.claim)) hc)
      exact (apart r q rfl (judged.record record)).symm
    exact ⟨_, _, .imported (importBook_new (idle.plusAll sound grown) stillNew)⟩

/-! ## At the end -/

theorem Ledger.record?_iff {c : Collected} (mem : c ∈ past) (r : BookRecord) :
    c.record? = some r ↔ c.prepared = .record r := by
  have verdict := h.verdicts idle distinct countable c mem
  obtain ⟨f, prepared, _⟩ := c
  dsimp only at verdict
  subst verdict
  cases prepared <;> simp [Prepared.verdict, Collected.record?]

theorem Ledger.failure?_iff {c : Collected} (mem : c ∈ past) (failure : ScanFailure) :
    c.failure? = some failure ↔
      c.prepared = .failed failure.cause ∧ failure.path = c.source.path := by
  have verdict := h.verdicts idle distinct countable c mem
  obtain ⟨f, prepared, _⟩ := c
  obtain ⟨path, cause⟩ := failure
  dsimp only at verdict
  subst verdict
  cases prepared <;> simp [Prepared.verdict, Collected.failure?]
  rw [and_comm, eq_comm (a := path)]

variable (done : l.IsDone)
include done

/-- The records that a scan imported are those of all new contents that parse. -/
theorem Ledger.mem_records (r : BookRecord) : r ∈ past.filterMap (·.record?) ↔
    ∃ a ∈ contentsOf files, contentDigest a ∉ s.tables.contentHashes ∧
      recordOf settings a = .ok r := by
  rw [List.mem_filterMap]
  constructor
  · rintro ⟨c, hc, record⟩
    obtain ⟨a, content, new, derived⟩ := (h.record hc record).record
    have walked := (h.all done).mem_iff.2 (List.mem_map_of_mem (f := (·.source)) hc)
    exact ⟨a, mem_contentsOf.2 ⟨c.source, walked, content⟩, new, derived⟩
  · rintro ⟨a, mem, new, derived⟩
    obtain ⟨c, hc, _, gives⟩ := h.exists_extracted done distinct.tellApart mem new
    refine ⟨c, hc, (h.record?_iff idle distinct countable hc r).2 ?_⟩
    rw [gives, Prepared.ofContent_ok derived]

omit done in
theorem Ledger.records_nodup :
    ((past.filterMap (·.record?)).map (·.book.contentHash)).Nodup := by
  have apart := List.pairwise_map.1 (List.pairwise_append.1 (h.apart distinct)).2.1
  refine List.pairwise_map.2 (List.pairwise_filterMap.2 (apart.imp_of_mem ?_))
  intro c d hc hd differ q hq r hr
  have gives := (h.record?_iff idle distinct countable hc q).1 hq
  have gives' := (h.record?_iff idle distinct countable hd r).1 hr
  exact (differ q r gives gives').digest.symm

variable (readable : ∀ f ∈ files, ∃ a, f.content = .ok a)
include readable

/-- A failure is that of new content that does not parse. -/
theorem Ledger.failed_content {c : Collected} (mem : c ∈ past) {failure : ScanFailure}
    (failed : c.failure? = some failure) : failure.path = c.source.path ∧ ∃ a e,
      c.source.content = .ok a ∧ a ∈ contentsOf files ∧ contentDigest a ∉ s.tables.contentHashes ∧
      ExtractedBook.read a = .error e ∧ failure.cause = .extract e := by
  obtain ⟨gives, path⟩ := (h.failure?_iff idle distinct countable mem failure).1 failed
  have walked := (h.all done).mem_iff.2 (List.mem_map_of_mem (f := (·.source)) mem)
  obtain ⟨a, content⟩ := readable c.source walked
  have answer := h.answer mem
  rw [Collected.claim, gives] at answer
  obtain ⟨new, fails⟩ := answer.failed content
  obtain ⟨e, read, cause⟩ := recordOf_error_iff.1 fails
  exact ⟨path, a, e, content, mem_contentsOf.2 ⟨_, walked, content⟩, new, read, cause⟩

/-- The files that failed are those of new contents that do not parse. -/
theorem Ledger.mem_failing (d : String) :
    some d ∈ ((past.filter (·.failure?.isSome)).map (·.source)).map (·.digest?) ↔
      d ∉ s.tables.contentHashes ∧
        ∃ a ∈ contentsOf files, contentDigest a = d ∧ ∃ e, ExtractedBook.read a = .error e := by
  rw [List.map_map, List.mem_map]
  constructor
  · rintro ⟨c, hc, digest⟩
    obtain ⟨mem, isSome⟩ := List.mem_filter.1 hc
    obtain ⟨failure, failed⟩ := Option.isSome_iff_exists.1 isSome
    obtain ⟨_, a, e, content, memA, new, read, _⟩ :=
      h.failed_content idle distinct countable done readable mem failed
    obtain ⟨b, content', rfl⟩ := digest?_eq_some.1 digest
    cases content.symm.trans content'
    exact ⟨new, a, memA, rfl, e, read⟩
  · rintro ⟨new, a, mem, rfl, e, read⟩
    obtain ⟨c, hc, content, gives⟩ := h.exists_extracted done distinct.tellApart mem new
    rw [Prepared.ofContent_error (recordOf_error_iff.2 ⟨e, read, rfl⟩)] at gives
    have failed := (h.failure?_iff idle distinct countable hc ⟨c.source.path, .extract e⟩).2
      ⟨gives, rfl⟩
    exact ⟨c, List.mem_filter.2 ⟨hc, by rw [failed]; rfl⟩, digest?_eq_some.2 ⟨a, content, rfl⟩⟩

theorem Ledger.failing_nodup :
    (((past.filter (·.failure?.isSome)).map (·.source)).map (·.digest?)).Nodup := by
  have once := (List.pairwise_filterMap.1 h.once).filter (·.failure?.isSome)
  rw [List.map_map]
  refine List.pairwise_map.2 (once.imp_of_mem ?_)
  intro c c' hc hc' differ same
  have owns (c : Collected) (hc : c ∈ past.filter (·.failure?.isSome)) :
      ∃ d, owned? c.claim = some d ∧ c.source.digest? = some d := by
    obtain ⟨mem, isSome⟩ := List.mem_filter.1 hc
    obtain ⟨failure, failed⟩ := Option.isSome_iff_exists.1 isSome
    obtain ⟨gives, _⟩ := (h.failure?_iff idle distinct countable mem failure).1 failed
    obtain ⟨_, a, _, content, _⟩ :=
      h.failed_content idle distinct countable done readable mem failed
    have digest := digest?_eq_some.2 ⟨a, content, rfl⟩
    exact ⟨_, owned?_eq_some.2 ⟨by simp [Collected.claim, gives], digest⟩, digest⟩
  obtain ⟨d, owned, digest⟩ := owns c hc
  obtain ⟨d', owned', digest'⟩ := owns c' hc'
  have same : c.source.digest? = c'.source.digest? := same
  rw [digest, digest'] at same
  exact differ d owned d' owned' (Option.some.inj same)

theorem Ledger.outcome : Outcome settings s files l (past.filterMap (·.record?))
    ((past.filter (·.failure?.isSome)).map (·.source)) where
  store := (h.replay.grows idle.toSound).2
  digests := h.records_nodup idle distinct countable
  derived := by
    intro r
    rw [h.mem_records idle distinct countable done]
    simp only [recordOf_ok_iff]
  parsed := by
    intro a mem new x read
    obtain ⟨r, derived⟩ := exists_record settings read
    refine ⟨r, (h.mem_records idle distinct countable done r).2 ⟨a, mem, new, ?_⟩, derived⟩
    exact recordOf_ok_iff.2 ⟨x, read, derived⟩
  failingDigests := h.failing_nodup idle distinct countable done readable
  unparsed := h.mem_failing idle distinct countable done readable
  walked := by
    intro f hf
    obtain ⟨c, hc, rfl⟩ := List.mem_map.1 hf
    exact (h.all done).mem_iff.2 (List.mem_map_of_mem (List.mem_of_mem_filter hc))
  imported := h.tally.imported
  failed := by
    have failures : (l.report none).failed = past.filterMap (·.failure?) := h.tally.failed
    rw [failures]
    refine forall₂_filterMap fun c hc failure failed => ?_
    obtain ⟨path, a, e, content, _, _, read, cause⟩ :=
      h.failed_content idle distinct countable done readable hc failed
    exact ⟨path, a, e, content, read, cause⟩
  unchanged := by
    have all := (h.all done).length_eq
    rw [List.length_map] at all
    exact h.tally.total.trans all.symm
  orphaned := h.mem_orphans idle.toSound done
  ascending := l.orphans_ascending
  cancelled := rfl

end

/-- If identifiers are distinct, a scan comes to its end with a ledger of all its files. -/
theorem ledger_settles (idle : s.Idle) (distinct : DistinctIds settings s.tables files)
    (countable : ∀ a ∈ contentsOf files, ∀ r, recordOf settings a = .ok r → r.Countable) :
    Settles settings
      (fun l => l.IsDone ∧ ∃ past, Ledger settings s.tables.contentHashes s files l past)
      (start s.tables.contentHashes s files) := by
  let inv (l : ScanLoop) : Prop :=
    ∃ past, Ledger settings s.tables.contentHashes s files l past
  have begin : inv (start s.tables.contentHashes s files) := ⟨[], ledger_start settings _ s files⟩
  refine settles_of_invariant begin ?_ ?_ ?_
  · rintro l m ⟨past, h⟩ step
    exact h.step step
  · rintro l ⟨past, h⟩ i
    exact h.fine idle distinct countable i
  · intro l h done
    exact ⟨done, h⟩

/-- Whatever the order, a scan ends with its outcome. -/
theorem outcome_settles (idle : s.Idle) (readable : ∀ f ∈ files, ∃ a, f.content = .ok a)
    (distinct : DistinctIds settings s.tables files)
    (countable : ∀ a ∈ contentsOf files, ∀ r, recordOf settings a = .ok r → r.Countable) :
    Settles settings (fun l => ∃ records failing, Outcome settings s files l records failing)
      (start s.tables.contentHashes s files) := by
  refine (ledger_settles idle distinct countable).imp ?_
  rintro l ⟨done, past, h⟩
  exact ⟨_, _, h.outcome idle distinct countable done readable⟩

/-- A scan of a tree of which every file can be read has this outcome, if the walk does not fail. -/
theorem outcome_scan (idle : s.Idle) {t : FileTree} {cwd : Place} {folder : Path}
    (unbroken : ∀ p e, .failed p e ∉ walk t cwd folder settings.followSymlinks)
    (readable : ∀ f ∈ sourcesBelow t cwd folder settings.followSymlinks, ∃ a, f.content = .ok a)
    (distinct : DistinctIds settings s.tables (sourcesBelow t cwd folder settings.followSymlinks))
    (countable : ∀ a ∈ contentsOf (sourcesBelow t cwd folder settings.followSymlinks), ∀ r,
      recordOf settings a = .ok r → r.Countable) :
    ∃ l records failing, scan settings none s t cwd folder = (.ok (l.report none), l.store) ∧
      Outcome settings s (sourcesBelow t cwd folder settings.followSymlinks) l records failing := by
  obtain ⟨l, ⟨records, failing, outcome⟩, eq⟩ :=
    (outcome_settles idle readable distinct countable).scanSources
  exact ⟨l, records, failing, scan_ok_iff.2 ⟨idle.isOpen, unbroken, eq⟩, outcome⟩

/-- A scan of two files with one book and one file without, of a library that holds another book. -/
theorem report_leafFiles {workers : Int} {records : List BookRecord} {failing : List Source}
    (h : Outcome (leafSettings workers) shelf leafFiles l records failing) :
    (l.report none).imported.length = 1 ∧ (l.report none).unchanged = 1 ∧
      (l.report none).failed.length = 1 ∧ (l.report none).orphaned.length = 1 := by
  obtain ⟨r, one, -, -⟩ := exists_leafRecord workers
  obtain ⟨b, books, hash⟩ := books_shelf
  have new {a : Bytes} (mem : a = Epub.leaf ∨ a = [0x50, 0x4B]) :
      contentDigest a ∉ shelf.tables.contentHashes := by
    rw [Tables.mem_contentHashes, books, List.map_singleton, List.mem_singleton, hash]
    exact digest_leafFiles_ne mem
  have imported : (l.report none).imported.length = 1 := by
    rw [h.imported, h.records_eq one (new (.inl rfl))]
    rfl
  have failing_eq : failing.map (·.digest?) = [some (contentDigest [0x50, 0x4B])] := by
    refine eq_singleton_of_nodup h.failingDigests ?_ fun d mem => ?_
    · exact (h.unparsed _).2 ⟨new (.inr rfl), _, mem_contentsOf_leafFiles.2 (.inr rfl), rfl, _,
        read_short⟩
    · obtain ⟨f, walked, rfl⟩ := List.mem_map.1 mem
      obtain ⟨_, _, digest⟩ := digest?_leafFiles (h.walked f walked)
      rw [digest] at mem ⊢
      obtain ⟨_, a, inside, same, e, unread⟩ := (h.unparsed _).1 mem
      rcases mem_contentsOf_leafFiles.1 inside with rfl | rfl
      · rw [Epub.read_leaf] at unread
        cases unread
      · rw [same]
  have failed : (l.report none).failed.length = 1 := by
    rw [← h.failed.length_eq, ← List.length_map (f := (·.digest?)), failing_eq]
    rfl
  have orphaned : (l.report none).orphaned = [b] := by
    have once : (l.report none).orphaned.Nodup := .of_map _ (h.ascending.imp String.ne_of_lt)
    refine eq_singleton_of_nodup once ((h.orphaned b).2 ⟨by simp [books], ?_⟩) fun c mem => ?_
    · intro f walked
      obtain ⟨a, inside, digest⟩ := digest?_leafFiles walked
      rw [digest, hash]
      exact fun same => digest_leafFiles_ne inside (Option.some.inj same)
    · have stored := ((h.orphaned c).1 mem).1
      rwa [books, List.mem_singleton] at stored
  have total := h.unchanged
  rw [imported, failed] at total
  have three : leafFiles.length = 3 := rfl
  exact ⟨imported, by omega, failed, by rw [orphaned]; rfl⟩

theorem settles_leafFiles (workers : Int) : Settles (leafSettings workers)
    (fun l => (l.report none).imported.length = 1 ∧ (l.report none).unchanged = 1 ∧
      (l.report none).failed.length = 1 ∧ (l.report none).orphaned.length = 1)
    (start shelf.tables.contentHashes shelf leafFiles) := by
  obtain ⟨r, one, fresh, countable⟩ := exists_leafRecord workers
  refine (outcome_settles (history_shelf.idle Store.idle_empty) readable_leafFiles
    (one.distinctIds (distinctBooks_leafFiles workers) fresh) (one.countable countable)).imp ?_
  rintro l ⟨records, failing, outcome⟩
  exact report_leafFiles outcome

end ScanLoop
end EpubLibrary
