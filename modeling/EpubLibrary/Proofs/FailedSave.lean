import EpubLibrary.Proofs.Calls

namespace EpubLibrary

/-- Is it a call to add books? These are the calls that begin a transaction of their own. -/
def Call.addsBooks : Call → Bool
  | .importDraft _ => true
  | .scan .. => true
  | .saveBookmark .. => false
  | .setBookmark .. => false
  | .deleteBookmark _ => false
  | .readChapter _ => false
  | .ask _ => false

namespace Store

def begun (s : Store) : Store := { s with isPending := true }

@[simp] theorem tables_begun (s : Store) : s.begun.tables = s.tables := rfl

@[simp] theorem isOpen_begun (s : Store) : s.begun.isOpen = s.isOpen := rfl

/-- The tables with a bookmark whose numbers fit their cells. -/
def savedTables (t : Tables) (bookId chapterId : LooseText) (progress createdAt : Number) :
    Except StoreError Tables := do
  let bookId ← Cell.text bookId
  let chapterId ← Cell.text chapterId
  let progress ← storedNumber progress
  let createdAt ← storedNumber createdAt
  t.putBookmark bookId chapterId progress createdAt

theorem saveBookmark_closed {s : Store} (closed : s.isOpen = false) (bookId chapterId : LooseText)
    (progress createdAt : Number) :
    s.saveBookmark bookId chapterId progress createdAt = (.error .closed, s) := by
  simp only [saveBookmark, closed]
  rfl

theorem saveBookmark_open {s : Store} (isOpen : s.isOpen = true) (bookId chapterId : LooseText)
    (progress createdAt : Number) : s.saveBookmark bookId chapterId progress createdAt =
      match savedTables s.tables bookId chapterId progress createdAt with
      | .ok t => (.ok (), { s with tables := t, isPending := false })
      | .error e => (.error e, s.begun) := by
  rw [saveBookmark, if_neg (by simp [isOpen])]
  rfl

/-- A bookmark that cannot be saved changes no row, but it leaves a transaction begun. -/
theorem saveBookmark_failed {s : Store} (isOpen : s.isOpen = true) {bookId chapterId : LooseText}
    {progress createdAt : Number} {e : StoreError}
    (failed : (s.saveBookmark bookId chapterId progress createdAt).1 = .error e) :
    (s.saveBookmark bookId chapterId progress createdAt).2 = s.begun := by
  rw [saveBookmark_open isOpen] at failed ⊢
  cases saved : savedTables s.tables bookId chapterId progress createdAt with
  | ok t => simp [saved] at failed
  | error e => rfl

/-! ## Calls while a transaction is begun -/

/-- Has the second of two stores at most begun a transaction more than the first? -/
def Trails (s t : Store) : Prop := t = s ∨ t = s.begun

theorem Trails.tables {s t : Store} (h : s.Trails t) : t.tables = s.tables := by
  obtain rfl | rfl := h <;> rfl

/-- A store without an open transaction is not behind. -/
theorem Trails.eq_of_idle {s t : Store} (h : s.Trails t) (idle : t.isPending = false) : t = s := by
  obtain rfl | rfl := h
  · rfl
  · cases idle

theorem saveBookmark_begun (s : Store) (bookId chapterId : LooseText)
    (progress createdAt : Number) :
    (s.begun.saveBookmark bookId chapterId progress createdAt).1 =
      (s.saveBookmark bookId chapterId progress createdAt).1 ∧
    (s.saveBookmark bookId chapterId progress createdAt).2.Trails
      (s.begun.saveBookmark bookId chapterId progress createdAt).2 := by
  cases isOpen : s.isOpen with
  | false =>
    rw [saveBookmark_closed isOpen, saveBookmark_closed (s := s.begun) isOpen]
    exact ⟨rfl, .inr rfl⟩
  | true =>
    rw [saveBookmark_open isOpen, saveBookmark_open (s := s.begun) isOpen, tables_begun]
    cases savedTables s.tables bookId chapterId progress createdAt with
    | ok t => exact ⟨rfl, .inl rfl⟩
    | error e => exact ⟨rfl, .inl rfl⟩

theorem deleteBookmark_begun (s : Store) (bookId : LooseText) :
    (s.begun.deleteBookmark bookId).1 = (s.deleteBookmark bookId).1 ∧
    (s.deleteBookmark bookId).2.Trails (s.begun.deleteBookmark bookId).2 := by
  cases isOpen : s.isOpen with
  | false =>
    simp only [deleteBookmark, isOpen_begun, isOpen]
    exact ⟨rfl, .inr rfl⟩
  | true =>
    simp only [deleteBookmark, isOpen_begun, isOpen]
    cases Cell.text bookId with
    | ok id => exact ⟨rfl, .inl rfl⟩
    | error e => exact ⟨rfl, .inl rfl⟩

theorem setBookmark_begun (s : Store) (bookId chapterId : LooseText) (progress now : Number) :
    (s.begun.setBookmark bookId chapterId progress now).1 =
      (s.setBookmark bookId chapterId progress now).1 ∧
    (s.setBookmark bookId chapterId progress now).2.Trails
      (s.begun.setBookmark bookId chapterId progress now).2 := by
  have check : s.begun.checkPosition bookId chapterId progress =
    s.checkPosition bookId chapterId progress := rfl
  unfold setBookmark
  rw [check]
  split
  · exact ⟨rfl, .inr rfl⟩
  · have saved := s.saveBookmark_begun bookId chapterId (.binary (progress.toBinary?.getD .nan)) now
    dsimp only
    cases first : s.saveBookmark bookId chapterId (.binary (progress.toBinary?.getD .nan)) now with
    | mk reply t =>
      cases second :
          s.begun.saveBookmark bookId chapterId (.binary (progress.toBinary?.getD .nan)) now with
      | mk reply' t' =>
        rw [first, second] at saved
        obtain ⟨rfl, trails⟩ := saved
        cases reply' with
        | ok _ => exact ⟨rfl, trails⟩
        | error _ => exact ⟨rfl, trails⟩

/-- A call that adds no books answers as if no transaction were begun. -/
theorem run_begun (s : Store) {call : Call} (quiet : call.addsBooks = false) :
    (call.run s.begun).1 = (call.run s).1 ∧ (call.run s).2.Trails (call.run s.begun).2 := by
  cases call with
  | importDraft r => cases quiet
  | scan settings cancelling t cwd folder => cases quiet
  | saveBookmark bookId chapterId progress createdAt =>
    obtain ⟨reply, trails⟩ := s.saveBookmark_begun bookId chapterId progress createdAt
    exact ⟨congrArg Answer.saved reply, trails⟩
  | setBookmark bookId chapterId progress now =>
    obtain ⟨reply, trails⟩ := s.setBookmark_begun bookId chapterId progress now
    exact ⟨congrArg Answer.position reply, trails⟩
  | deleteBookmark bookId =>
    obtain ⟨reply, trails⟩ := s.deleteBookmark_begun bookId
    exact ⟨congrArg Answer.saved reply, trails⟩
  | readChapter id => exact ⟨rfl, .inr rfl⟩
  | ask question => exact ⟨rfl, .inr rfl⟩

/-- A call that adds no book does not tell the two stores apart. -/
theorem Trails.run {s t : Store} (h : s.Trails t) {call : Call} (quiet : call.addsBooks = false) :
    (call.run t).1 = (call.run s).1 ∧ (call.run s).2.Trails (call.run t).2 := by
  obtain rfl | rfl := h
  · exact ⟨rfl, .inl rfl⟩
  · exact s.run_begun quiet

theorem Trails.runAll {s t : Store} (h : s.Trails t) {calls : List Call}
    (quiet : ∀ call ∈ calls, call.addsBooks = false) :
    (t.runAll calls).1 = (s.runAll calls).1 ∧ (s.runAll calls).2.Trails (t.runAll calls).2 := by
  induction calls generalizing s t with
  | nil => exact ⟨rfl, h⟩
  | cons call calls ih =>
    obtain ⟨first, trails⟩ := h.run (quiet call List.mem_cons_self)
    obtain ⟨rest, trails⟩ := ih trails fun c hc => quiet c (List.mem_cons_of_mem _ hc)
    refine ⟨?_, trails⟩
    rw [Store.runAll, Store.runAll, first, rest]

/-- No book is added while a transaction is begun. -/
theorem importDraft_begun {s : Store} (isOpen : s.isOpen = true) (r : RecordDraft) :
    s.begun.importDraft r = (.error .nested, s.begun) := by
  simp only [importDraft, isOpen_begun, isOpen]
  rfl

theorem importBook_begun (s : Store) (r : BookRecord) : (s.begun.importBook r).2 = s.begun := by
  cases isOpen : s.isOpen with
  | false =>
    simp only [importBook, importDraft, isOpen_begun, isOpen]
    rfl
  | true => rw [importBook, importDraft_begun isOpen]

/-- No scan changes a store with a transaction begun. -/
theorem scan_begun (s : Store) (settings : ScanSettings) (cancelling : ScanLoop.Cancelling)
    (t : FileTree) (cwd : Place) (folder : Path) :
    (scan settings cancelling s.begun t cwd folder).2 = s.begun := by
  have imports := s.begun.scan_imports settings cancelling t cwd folder
  -- The induction is on the imports, so the store that they end in must be any.
  generalize (scan settings cancelling s.begun t cwd folder).2 = u at imports ⊢
  induction imports with
  | refl => rfl
  | tail _ last ih =>
    obtain ⟨r, rfl⟩ := last
    rw [ih]
    exact s.importBook_begun r

/-- A failed save changes no row. It is in the way of imports and scans, which add nothing, until a
call ends the transaction that it has begun; all else answers as if it had not been made, and from
then on everything does. -/
theorem failed_save_leaves {s : Store} (isOpen : s.isOpen = true) {bookId chapterId : LooseText}
    {progress createdAt : Number} {e : StoreError} {t : Store}
    (failed : s.saveBookmark bookId chapterId progress createdAt = (.error e, t)) :
    t.tables = s.tables ∧
    (∀ r, t.importDraft r = (.error .nested, t)) ∧
    (∀ settings cancelling tree cwd folder,
      (scan settings cancelling t tree cwd folder).2 = t) ∧
    ∀ before after, (∀ call ∈ before, call.addsBooks = false) →
      (t.runAll before).2.isPending = false ∨ after = [] →
      (t.runAll (before ++ after)).1 = (s.runAll (before ++ after)).1 ∧
      (t.runAll (before ++ after)).2.tables = (s.runAll (before ++ after)).2.tables := by
  obtain rfl : t = s.begun := by
    have left := saveBookmark_failed isOpen (congrArg Prod.fst failed)
    rw [failed] at left
    exact left
  refine ⟨rfl, importDraft_begun isOpen, s.scan_begun, fun before after quiet ends => ?_⟩
  have trails : s.Trails s.begun := .inr rfl
  obtain ⟨answers, trails⟩ := trails.runAll quiet
  rcases ends with idle | rfl
  · rw [runAll_append, runAll_append, answers, trails.eq_of_idle idle]
    exact ⟨rfl, rfl⟩
  · rw [List.append_nil]
    exact ⟨answers, trails.tables⟩

def emma : BookRecord :=
  ⟨⟨some "b", "", "en", "Emma", "d", none, none, none⟩, [⟨some "c", "b", 0, []⟩], []⟩

/-- Clearing a bookmark, even one that is not there, ends what a failed save has begun. -/
theorem failed_save_leaves_emma : ∃ t,
    empty.saveBookmark "b" "c" (.integer 0) (.integer 0) =
      (.error (.violation .dangling), t) ∧
    (t.runAll [.deleteBookmark "b", .importDraft emma.draft]).1 =
      (empty.runAll [.deleteBookmark "b", .importDraft emma.draft]).1 := by
  refine ⟨empty.begun, rfl, ?_⟩
  have leaves := failed_save_leaves (s := empty) rfl
    (rfl : empty.saveBookmark "b" "c" (.integer 0) (.integer 0) =
      (.error (.violation .dangling), empty.begun))
  exact (leaves.2.2.2 [.deleteBookmark "b"] [.importDraft emma.draft]
    (by simp [Call.addsBooks]) (.inl rfl)).1

/-- After a save of a bookmark for a book that is not there, a book that would have been imported
is refused. -/
theorem failed_save_shows :
    (empty.saveBookmark "b" "c" (.integer 0) (.integer 0)).1 = .error (.violation .dangling) ∧
    (empty.importBook emma).1 = .ok true ∧
    ((empty.saveBookmark "b" "c" (.integer 0) (.integer 0)).2.importBook emma).1 =
      .error .nested := by
  decide

end Store
end EpubLibrary
