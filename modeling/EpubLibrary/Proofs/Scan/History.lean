import EpubLibrary.Proofs.Scan.Ledger

/-!
# Histories of a library

`Store.Use` is one thing done with a library: a derived record is imported, files are scanned, or a
bookmark is set or cleared, whether that succeeds or not. `Store.History` is any number of them.
-/

namespace EpubLibrary

/-- A number between zero and one is one. -/
theorem Number.isFraction_ne_nan {n : Number} (h : n.isFraction = true) :
    n.toBinary?.getD .nan ≠ .nan := by
  cases n with
  | integer n =>
    simp only [isFraction, Bool.and_eq_true, decide_eq_true_eq] at h
    obtain rfl | rfl : n = 0 ∨ n = 1 := by omega
    · decide
    · decide
  | binary x =>
    rintro rfl
    cases h

namespace Store

/-- One thing done with a library. It may fail, and a scan may be stopped on its way. -/
inductive Use : Store → Store → Prop where
  | importDerived (s : Store) {x : Epub.ExtractedBook} {digest : String} {root : Uuid} {level : Int}
      {r : BookRecord} (derived : BookRecord.derive x digest root level = .ok r) :
      Use s (s.importBook r).2
  | scan (s : Store) {settings : ScanSettings} {held : DigestSet} {files : List Source}
      {l : ScanLoop} (steps : ScanLoop.Steps settings (.start held s files) l) : Use s l.store
  | setBookmark (s : Store) (bookId chapterId : LooseText) (progress : Number) {now : Binary64}
      (told : now ≠ .nan) : Use s (s.setBookmark bookId chapterId progress (.binary now)).2
  | clearBookmark (s : Store) (bookId : String) : Use s (s.deleteBookmark bookId).2

abbrev History : Store → Store → Prop := Relation.ReflTransGen Use

/-- Sound, and without an open transaction. -/
structure Idle (s : Store) : Prop extends Sound s where
  isIdle : s.isPending = false

theorem Idle.plusAll {s t : Store} {rs : List BookRecord} (h : s.Idle) (sound : t.Sound)
    (eq : t = s.plusAll rs) : t.Idle where
  toSound := sound
  isIdle := by
    rw [eq]
    exact h.isIdle

theorem Idle.importBook {s : Store} (h : s.Idle) (r : BookRecord) : (s.importBook r).2.Idle := by
  rcases importBook_cases h.toSound r with kept | ⟨added, sound⟩
  · rw [kept]
    exact h
  · rw [added]
    exact h.plusAll sound rfl

theorem demand_ok_iff {holds : Bool} {e : BookmarkError} {u : Unit} :
    demand holds e = .ok u ↔ holds = true := by
  cases holds <;> simp [demand]

theorem lookBy_ok_iff {α : Type} {s : Store} (isOpen : s.isOpen = true) {key : LooseText}
    {ask : Tables → String → α} {a : α} :
    s.lookBy key ask = .ok a ↔ ∃ k : String, key = k ∧ ask s.tables k = a := by
  rw [lookBy, query, if_pos isOpen, map_ok_iff]
  simp only [Cell.text_ok_iff]

/-- A reading position passes the check exactly if it lies within a stored chapter of a stored
book. -/
theorem checkPosition_ok_iff {s : Store} (isOpen : s.isOpen = true) {bookId chapterId : LooseText}
    {progress : Number} {u : Unit} : s.checkPosition bookId chapterId progress = .ok u ↔
      progress.isFraction = true ∧ ∃ b c : String, bookId = b ∧ chapterId = c ∧
        s.tables.HasBook b ∧ s.tables.HasChapterOf b c := by
  simp only [checkPosition, bind_ok_iff, demand_ok_iff, mapError_ok_iff, lookBy_ok_iff isOpen,
    exists_const]
  constructor
  · rintro ⟨fraction, book, ⟨b, rfl, rfl⟩, stored, chapter, ⟨c, rfl, rfl⟩, own⟩
    rw [← Option.not_isNone, Bool.not_eq_true', Tables.book?_isNone] at stored
    obtain ⟨row, found, same⟩ := (Option.any_eq_true _ _).1 own
    exact ⟨fraction, b, c, rfl, rfl, stored, row, found,
      (LooseText.text.inj (of_decide_eq_true same)).symm⟩
  · rintro ⟨fraction, b, c, rfl, rfl, stored, row, found, rfl⟩
    refine ⟨fraction, _, ⟨_, rfl, rfl⟩, ?_, _, ⟨_, rfl, rfl⟩, ?_⟩
    · rw [← Option.not_isNone, Bool.not_eq_true', Tables.book?_isNone]
      exact stored
    · rw [found]
      simp

/-- A position passes the check if it lies within a stored chapter of a stored book. -/
theorem checkPosition_text_iff {s : Store} (isOpen : s.isOpen = true) {bookId chapterId : String}
    {progress : Number} {u : Unit} : s.checkPosition bookId chapterId progress = .ok u ↔
      progress.isFraction = true ∧ s.tables.HasBook bookId ∧
        s.tables.HasChapterOf bookId chapterId := by
  rw [checkPosition_ok_iff isOpen]
  simp

theorem saveBookmark_ok {s : Store} (isOpen : s.isOpen = true) {bookId chapterId : String}
    {progress createdAt : Binary64} {t : Tables}
    (put : s.tables.putBookmark bookId chapterId progress createdAt = .ok t) :
    s.saveBookmark bookId chapterId (.binary progress) (.binary createdAt) =
      (.ok (), { s with tables := t, isPending := false }) := by
  simp only [saveBookmark, isOpen, storedNumber, Cell.text_text, bind, Except.bind, put]
  rfl

theorem setBookmark_refused {s : Store} {bookId chapterId : LooseText} {progress : Number}
    {e : BookmarkError} (check : s.checkPosition bookId chapterId progress = .error e)
    (now : Number) : s.setBookmark bookId chapterId progress now = (.error e, s) := by
  rw [setBookmark, check]

/-- A reading position that passes the check is put in. -/
theorem setBookmark_checked {s : Store} (isOpen : s.isOpen = true) {bookId chapterId : LooseText}
    {progress : Number} {u : Unit} (check : s.checkPosition bookId chapterId progress = .ok u)
    {now : Binary64} (told : now ≠ .nan) :
    ∃ (b c : String) (t : Tables), bookId = b ∧ chapterId = c ∧
      s.tables.putBookmark b c (progress.toBinary?.getD .nan) now = .ok t ∧
      s.setBookmark bookId chapterId progress (.binary now) =
        (.ok ⟨bookId, chapterId, progress.toBinary?.getD .nan, .binary now⟩,
          { s with tables := t, isPending := false }) := by
  obtain ⟨fraction, b, c, rfl, rfl, book, chapter⟩ := (checkPosition_ok_iff isOpen).1 check
  have put := Tables.putBookmark_ok_iff.2
    ⟨Number.isFraction_ne_nan fraction, told, book, chapter.hasChapter, rfl⟩
  refine ⟨b, c, _, rfl, rfl, put, ?_⟩
  rw [setBookmark, check]
  dsimp only
  rw [saveBookmark_ok isOpen put]

theorem Idle.setBookmark {s : Store} (h : s.Idle) (bookId chapterId : LooseText) (progress : Number)
    {now : Binary64} (told : now ≠ .nan) :
    (s.setBookmark bookId chapterId progress (.binary now)).2.Idle := by
  refine ⟨sound_setBookmark h.toSound _ _ _ _, ?_⟩
  cases check : s.checkPosition bookId chapterId progress with
  | error e =>
    rw [setBookmark_refused check]
    exact h.isIdle
  | ok _ =>
    obtain ⟨_, _, t, _, _, _, eq⟩ := setBookmark_checked h.isOpen check told
    rw [eq]

/-- No transaction is left open, since a reading position that was checked can be saved. -/
theorem Use.idle {s s' : Store} (use : Use s s') (h : s.Idle) : s'.Idle := by
  cases use with
  | importDerived derived => exact h.importBook _
  | scan steps =>
    obtain ⟨past, ledger⟩ := ScanLoop.steps_ledger steps
    obtain ⟨sound, grown⟩ := ledger.replay.grows h.toSound
    exact h.plusAll sound grown
  | setBookmark bookId chapterId progress told => exact h.setBookmark bookId chapterId progress told
  | clearBookmark bookId =>
    refine ⟨sound_deleteBookmark h.toSound bookId, ?_⟩
    simp [deleteBookmark, h.isOpen]

theorem History.idle {s s' : Store} (history : History s s') (h : s.Idle) : s'.Idle := by
  induction history with
  | refl => exact h
  | tail _ use ih => exact use.idle ih

theorem idle_empty : empty.Idle := ⟨⟨rfl, Tables.valid_empty⟩, rfl⟩

/-! ## What stays -/

theorem extends_importBook {s : Store} (h : s.Sound) {r : BookRecord} {bookId : String}
    (shape : r.Shaped bookId) : s.tables.Extends (s.importBook r).2.tables := by
  rcases importBook_cases h r with kept | ⟨added, sound⟩
  · rw [kept]
    exact Tables.extends_of_eq rfl rfl rfl
  · rw [added]
    refine Tables.extends_plusAll (fun q hq => ⟨bookId, ?_⟩) sound.valid.toUnique
    rw [List.mem_singleton.1 hq]
    exact shape

theorem extends_saveBookmark (s : Store) (bookId chapterId : LooseText)
    (progress createdAt : Number) :
    s.tables.Extends (s.saveBookmark bookId chapterId progress createdAt).2.tables := by
  obtain ⟨_, kept | ⟨b, c, p, a, put⟩⟩ := s.saveBookmark_cases bookId chapterId progress createdAt
  · rw [kept]
    exact Tables.extends_of_eq rfl rfl rfl
  · obtain ⟨_, _, _, _, eq⟩ := Tables.putBookmark_ok_iff.1 put
    rw [eq]
    exact Tables.extends_of_eq rfl rfl rfl

theorem extends_setBookmark (s : Store) (bookId chapterId : LooseText) (progress now : Number) :
    s.tables.Extends (s.setBookmark bookId chapterId progress now).2.tables := by
  unfold setBookmark
  split
  · exact Tables.extends_of_eq rfl rfl rfl
  · have saved := s.extends_saveBookmark bookId chapterId
      (.binary (progress.toBinary?.getD .nan)) now
    dsimp only
    split <;> simp_all

/-- Whatever is done, books, chapters and entries stay, and books get no more of them. -/
theorem Use.extends {s s' : Store} (use : Use s s') (h : s.Idle) :
    s.tables.Extends s'.tables := by
  cases use with
  | importDerived derived => exact extends_importBook h.toSound (derived_of_ok derived).shaped
  | scan steps =>
    obtain ⟨past, ledger⟩ := ScanLoop.steps_ledger steps
    obtain ⟨sound, grown⟩ := ledger.replay.grows h.toSound
    have unique := sound.valid.toUnique
    rw [grown] at unique ⊢
    refine Tables.extends_plusAll (fun r hr => ?_) unique
    obtain ⟨c, hc, record⟩ := List.mem_filterMap.1 hr
    obtain ⟨bytes, _, _, derived⟩ := (ledger.record hc record).record
    exact ⟨_, shaped_recordOf derived⟩
  | setBookmark bookId chapterId progress told => exact s.extends_setBookmark _ _ _ _
  | clearBookmark bookId =>
    unfold deleteBookmark
    split <;> exact Tables.extends_of_eq rfl rfl rfl

/-- Books, chapters and entries are only added, and a book that is there never gets more of them. -/
theorem History.extends {s s' : Store} (history : History s s') (h : s.Idle) :
    s.tables.Extends s'.tables := by
  induction history with
  | refl => exact Tables.extends_of_eq rfl rfl rfl
  | tail before use ih => exact ih.trans (use.extends (History.idle before h))

end Store
end EpubLibrary
