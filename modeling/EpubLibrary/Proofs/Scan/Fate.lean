import EpubLibrary.Proofs.Scan.Outcome

namespace EpubLibrary

/-! ## Books that are put in -/

namespace Tables

theorem addBook_books {t t' : Tables} {draft : BookDraft} (h : t.addBook draft = .ok t') :
    ∃ b : Book, draft = b.draft ∧ t'.books = t.books ++ [b] := by
  obtain ⟨b, row, rest⟩ := bind_ok_iff.1 h
  obtain ⟨_, _, rest⟩ := bind_ok_iff.1 rest
  obtain ⟨_, _, eq⟩ := bind_ok_iff.1 rest
  cases eq
  exact ⟨b, BookDraft.row_ok_iff.1 row, rfl⟩

def KeepsBooks {Draft : Type} (add : Tables → Draft → Except StoreError Tables) : Prop :=
  ∀ t draft t', add t draft = .ok t' → t'.books = t.books

theorem keepsBooks_addChapter : KeepsBooks addChapter := by
  intro t draft t' h
  simp only [addChapter, bind_ok_iff] at h
  obtain ⟨c, _, _, _, _, _, _, _, eq⟩ := h
  cases eq
  rfl

theorem keepsBooks_addTocEntry : KeepsBooks addTocEntry := by
  intro t draft t' h
  simp only [addTocEntry, bind_ok_iff] at h
  obtain ⟨e, _, _, _, _, _, _, _, _, _, eq⟩ := h
  cases eq
  rfl

theorem KeepsBooks.foldlM {Draft : Type} {add : Tables → Draft → Except StoreError Tables}
    (keeps : KeepsBooks add) {drafts : List Draft} {t t' : Tables}
    (h : drafts.foldlM add t = .ok t') : t'.books = t.books := by
  induction drafts generalizing t with
  | nil =>
    cases h
    rfl
  | cons draft drafts ih =>
    obtain ⟨u, first, rest⟩ := bind_ok_iff.1 h
    rw [ih rest, keeps t draft u first]

theorem addRecord_books {t t' : Tables} {draft : RecordDraft} (h : t.addRecord draft = .ok t') :
    ∃ b : Book, draft.book = b.draft ∧ t'.books = t.books ++ [b] := by
  obtain ⟨u, book, rest⟩ := bind_ok_iff.1 h
  obtain ⟨v, chapters, toc⟩ := bind_ok_iff.1 rest
  obtain ⟨b, row, books⟩ := addBook_books book
  refine ⟨b, row, ?_⟩
  rw [keepsBooks_addTocEntry.foldlM toc, keepsBooks_addChapter.foldlM chapters, books]

/-- An import that answers leaves the digest stored: it was there, or its book is put in. -/
theorem importDraft_stores {t : Tables} {r : BookRecord} {answer : Option Tables}
    (h : t.importDraft r.draft = .ok answer) :
    r.book.contentHash ∈ (answer.getD t).contentHashes ∧
      ∀ d ∈ t.contentHashes, d ∈ (answer.getD t).contentHashes := by
  simp only [mem_contentHashes]
  obtain ⟨held, check, rest⟩ := bind_ok_iff.1 h
  cases held with
  | true =>
    cases rest
    refine ⟨?_, fun d hd => hd⟩
    rw [Option.getD_none, ← mem_contentHashes]
    exact (holds_of_checkIds check).stored
  | false =>
    obtain ⟨t', added, eq⟩ := map_ok_iff.1 rest
    cases eq
    obtain ⟨b, row, books⟩ := addRecord_books added
    rw [Option.getD_some, books, List.map_append, ← Book.draft_injective row]
    exact ⟨List.mem_append_right _ (List.mem_singleton_self _),
      fun d hd => List.mem_append_left _ hd⟩

end Tables

/-- Once an import has answered, the digest of its record is stored. This needs no rule of the
tables, so it holds of every store. -/
theorem Store.importBook_stores {s s' : Store} {r : BookRecord} {added : Bool}
    (h : s.importBook r = (.ok added, s')) :
    r.book.contentHash ∈ s'.tables.contentHashes ∧
      ∀ d ∈ s.tables.contentHashes, d ∈ s'.tables.contentHashes := by
  unfold importBook importDraft at h
  split at h
  · cases h
  split at h
  · cases h
  split at h
  · cases h
  · rename_i answer
    cases h
    exact Tables.importDraft_stores answer
  · rename_i t answer
    cases h
    exact Tables.importDraft_stores answer

/-! ## Files that are collected -/

theorem Judged.keeps {s t : Store} {c : Collected} (h : Judged s c t) {d : String}
    (stored : d ∈ s.tables.contentHashes) : d ∈ t.tables.contentHashes := by
  cases h with
  | unchanged => exact stored
  | failed => exact stored
  | imported answer => exact (Store.importBook_stores answer).2 d stored
  | held answer => exact stored
  | collided answer => exact stored

theorem Judged.stores {s t : Store} {c : Collected} (h : Judged s c t) {r : BookRecord}
    (gives : c.prepared = .record r) :
    (∃ cause, c.verdict = .failed cause) ∨ r.book.contentHash ∈ t.tables.contentHashes := by
  cases h with
  | unchanged => cases gives
  | failed => exact .inl ⟨_, rfl⟩
  | imported answer =>
    cases gives
    exact .inr (Store.importBook_stores answer).1
  | held answer =>
    cases gives
    exact .inr (Store.importBook_stores answer).1
  | collided answer => exact .inl ⟨_, rfl⟩

theorem Replay.keeps {s t : Store} {past : List Collected} (h : Replay s past t) {d : String}
    (stored : d ∈ s.tables.contentHashes) : d ∈ t.tables.contentHashes := by
  induction h with
  | nil => exact stored
  | snoc _ last ih => exact last.keeps ih

/-- A record that was collected is stored at the end, or has failed. -/
theorem Replay.stores {s t : Store} {past : List Collected} (h : Replay s past t) {c : Collected}
    (mem : c ∈ past) {r : BookRecord} (gives : c.prepared = .record r) :
    (∃ cause, c.verdict = .failed cause) ∨ r.book.contentHash ∈ t.tables.contentHashes := by
  induction h with
  | nil => cases mem
  | snoc _ last ih =>
    rcases List.mem_append.1 mem with old | new
    · exact (ih old).imp_right last.keeps
    · obtain rfl := List.mem_singleton.1 new
      exact last.stores gives

/-! ## The end of a scan -/

def Source.IsStored (f : Source) (t : Tables) : Prop :=
  ∃ d, f.digest? = some d ∧ d ∈ t.contentHashes

/-- Is a file among the failures, by its own path? -/
def Source.IsReported (f : Source) (s : ScanSummary) : Prop :=
  ∃ failure ∈ s.failed, failure.path = f.path

namespace ScanLoop

variable {settings : ScanSettings} {s : Store} {files : List Source} {l : ScanLoop}
  {past : List Collected}

/-- A file that failed is reported by its own path. -/
theorem reported_of_failed (tally : Tally l.summary past) {c : Collected} (mem : c ∈ past)
    {cause : FailureCause} (failed : c.verdict = .failed cause) :
    c.source.IsReported l.summary := by
  obtain ⟨f, prepared, verdict⟩ := c
  cases failed
  refine ⟨⟨f.path, cause⟩, ?_, rfl⟩
  rw [tally.failed]
  exact List.mem_filterMap.2 ⟨_, mem, rfl⟩

section
variable (h : Ledger settings s.tables.contentHashes s files l past)
include h

/-- The owner of a digest has failed, or the digest is stored. -/
theorem Ledger.owner_fate {c : Collected} {d : String} (mem : c ∈ past)
    (owns : owned? c.claim = some d) :
    c.source.IsReported l.summary ∨ d ∈ l.store.tables.contentHashes := by
  obtain ⟨changed, digest⟩ := owned?_eq_some.1 owns
  obtain ⟨t, u, judged⟩ := h.replay.judged mem
  have answer := h.answer mem
  cases gives : c.prepared with
  | unchanged => exact absurd gives changed
  | failed cause =>
    obtain ⟨f, prepared, verdict⟩ := c
    cases gives
    cases judged with
    | failed => exact .inl (reported_of_failed h.tally mem rfl)
  | record r =>
    rw [Collected.claim, gives] at answer
    have same : r.book.contentHash = d :=
      Option.some.inj (answer.digest_record.symm.trans digest)
    rcases h.replay.stores mem gives with ⟨cause, failed⟩ | stored
    · exact .inl (reported_of_failed h.tally mem failed)
    · exact .inr (same ▸ stored)

variable (done : l.IsDone)
include done

/-- A file that cannot be read has failed. -/
theorem Ledger.unreadable_reported {f : Source} (walked : f ∈ files) {e : FileError}
    (content : f.content = .error e) : f.IsReported l.summary := by
  obtain ⟨c, hc, rfl⟩ := List.mem_map.1 ((h.all done).mem_iff.1 walked)
  have answer := h.answer hc
  obtain ⟨t, u, judged⟩ := h.replay.judged hc
  obtain ⟨f, prepared, verdict⟩ := c
  cases answer with
  | unreadable _ =>
    cases judged with
    | failed => exact reported_of_failed h.tally hc rfl
  | unchanged content' => cases content.symm.trans content'
  | extracted content' _ => cases content.symm.trans content'

/-- At the end every file has one of three fates. -/
theorem Ledger.fate {f : Source} (walked : f ∈ files) :
    f.IsStored l.store.tables ∨ f.IsReported l.summary ∨
      ∃ g ∈ files, ∃ d, f.digest? = some d ∧ g.digest? = some d ∧ g.IsReported l.summary := by
  cases content : f.content with
  | error e => exact .inr (.inl (h.unreadable_reported done walked content))
  | ok bytes =>
    have digest := digest?_eq_some.2 ⟨bytes, content, rfl⟩
    by_cases old : contentDigest bytes ∈ s.tables.contentHashes
    · exact .inl ⟨_, digest, h.replay.keeps old⟩
    · have found := (h.found_iff done).2 ⟨f, walked, digest⟩
      obtain ⟨c, hc, owns⟩ := h.exists_owner done found old
      have copied : c.source ∈ files := (h.all done).mem_iff.2 (List.mem_map_of_mem hc)
      rcases h.owner_fate hc owns with reported | stored
      · exact .inr (.inr ⟨c.source, copied, _, digest, (owned?_eq_some.1 owns).2, reported⟩)
      · exact .inl ⟨_, digest, stored⟩

end

/-- No content is lost: whatever the store was and in whatever order the files went, at the end
each file has its content stored, is reported as failed, or is a copy of a file that is. -/
theorem stored_or_reported (steps : Steps settings (start s.tables.contentHashes s files) l)
    (done : l.IsDone) : ∀ f ∈ files,
      f.IsStored l.store.tables ∨ f.IsReported (l.report none) ∨
        ∃ g ∈ files, ∃ d, f.digest? = some d ∧ g.digest? = some d ∧
          g.IsReported (l.report none) := by
  obtain ⟨past, h⟩ := steps_ledger steps
  intro f walked
  exact h.fate done walked

/-- The same of the files below a folder, if the scan of them comes to its end. -/
theorem scan_stored_or_reported {t : FileTree} {cwd : Place} {folder : Path} {s' : Store}
    {summary : ScanSummary} (scanned : scan settings none s t cwd folder = (.ok summary, s')) :
    ∀ f ∈ sourcesBelow t cwd folder settings.followSymlinks,
      f.IsStored s'.tables ∨ f.IsReported summary ∨
        ∃ g ∈ sourcesBelow t cwd folder settings.followSymlinks, ∃ d,
          f.digest? = some d ∧ g.digest? = some d ∧ g.IsReported summary := by
  obtain ⟨l, steps, done, rfl, rfl⟩ := scanSources_ok (scan_ok_iff.1 scanned).2.2
  obtain ⟨past, h⟩ := steps_ledger steps
  intro f walked
  exact h.fate done walked

/-- Two copies of a file without content, which is no archive. -/
def emptyFiles : List Source := [⟨⟨0, [['a']]⟩, .ok []⟩, ⟨⟨0, [['b']]⟩, .ok []⟩]

theorem run_emptyFiles : scanSources (.clamped Config.defaultRoot 4 8 false) none
      Store.empty.tables.contentHashes .empty emptyFiles =
    (.ok ⟨[], 1, [⟨⟨0, [['a']]⟩, .extract (.malformed ⟨.unreadable .badArchive, none⟩)⟩], [],
      false⟩, .empty) := by
  decide +kernel

theorem stored_or_reported_emptyFiles : ∃ l,
    Steps (.clamped Config.defaultRoot 4 8 false)
      (start Store.empty.tables.contentHashes .empty emptyFiles) l ∧ l.IsDone ∧
    ∀ f ∈ emptyFiles, f.IsStored l.store.tables ∨ f.IsReported (l.report none) ∨
      ∃ g ∈ emptyFiles, ∃ d, f.digest? = some d ∧ g.digest? = some d ∧
        g.IsReported (l.report none) := by
  obtain ⟨l, steps, done, _⟩ := scanSources_ok run_emptyFiles
  exact ⟨l, steps, done, stored_or_reported steps done⟩

/-- Of two copies of content that does not parse only the first is reported; that of the second is
not stored either. -/
theorem copy_unreported : ∃ l,
    Steps (.clamped Config.defaultRoot 4 8 false)
      (start Store.empty.tables.contentHashes .empty emptyFiles) l ∧ l.IsDone ∧
    ¬ ∀ f ∈ emptyFiles, f.IsStored l.store.tables ∨ f.IsReported (l.report none) := by
  obtain ⟨l, steps, done, report, store⟩ := scanSources_ok run_emptyFiles
  refine ⟨l, steps, done, fun all => ?_⟩
  rw [← report, ← store] at all
  rcases all ⟨⟨0, [['b']]⟩, .ok []⟩ (by simp [emptyFiles]) with ⟨d, _, stored⟩ | reported
  · exact absurd stored (by simp [Store.empty, Tables.empty])
  · obtain ⟨failure, mem, path⟩ := reported
    rw [List.mem_singleton.1 mem] at path
    exact absurd path (by decide)

end ScanLoop
end EpubLibrary
