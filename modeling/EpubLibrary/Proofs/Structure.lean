import EpubLibrary.Proofs.Number.Value
import EpubLibrary.Proofs.ReadBack

/-!
# The structure of a library

The chapters and the entries of a book are numbered from zero, entries and bookmarks lead to
chapters of their own book, bookmarks lie within a chapter, and chapters hold texts. The rules of
the tables ask for none of this.
-/

namespace EpubLibrary

def Numbered {α : Type} (index : α → Int) (l : List α) : Prop :=
  l.map index = (List.range l.length).map Int.ofNat

/-- Rows of a book that is not there yet leave those of other books in their places. -/
theorem numbered_append {α : Type} {book : α → String} {index : α → Int} {bookId : String}
    {old new : List α} (before : ∀ id, Numbered index (old.filter fun a => book a = id))
    (others : ∀ a ∈ old, book a ≠ bookId) (own : ∀ a ∈ new, book a = bookId)
    (numbered : Numbered index new) (id : String) :
    Numbered index ((old ++ new).filter fun a => book a = id) := by
  by_cases same : id = bookId
  · rw [same, filter_own others own]
    exact numbered
  · have apart (a : α) (ha : a ∈ new) : book a ≠ id := by
      rw [own a ha]
      exact Ne.symm same
    rw [Tables.filter_others apart]
    exact before id

/-- Can the chapter be asked for, and is its payload that of a text? -/
def Chapter.Holds (c : Chapter) (html : String) : Prop :=
  c.id.isSome = true ∧ c.content = Payload.packed (Bytes.ofText html)

theorem BookRecord.Derived.holds {x : Epub.ExtractedBook} {digest : String} {root : Uuid}
    {r : BookRecord} (h : r.Derived x digest root) : ∀ c ∈ r.chapters, ∃ html, c.Holds html := by
  intro c hc
  rw [h.chapters] at hc
  obtain ⟨⟨html, i⟩, _, rfl⟩ := List.mem_map.1 hc
  exact ⟨html, rfl, rfl⟩

namespace Tables

/-- How the rows of a library stand to each other. -/
structure Structured (t : Tables) : Prop where
  books : ∀ b ∈ t.books, b.id.isSome = true
  chapters : ∀ id, Numbered (·.index) (t.chapters.filter (·.bookId = id))
  toc : ∀ id, Numbered (·.index) (t.toc.filter (·.bookId = id))
  tocChapter : ∀ e ∈ t.toc, t.HasChapterOf e.bookId e.chapterId
  bookmarkChapter : ∀ m ∈ t.bookmarks, t.HasChapterOf m.bookId m.chapterId
  progress : ∀ m ∈ t.bookmarks, ∃ q, m.progress.value? = some q ∧ 0 ≤ q ∧ q ≤ 1
  texts : ∀ c ∈ t.chapters, ∃ html, c.Holds html

theorem structured_empty : empty.Structured := by
  constructor <;> simp [empty, Numbered]

variable {t t' : Tables} {r : BookRecord}

theorem HasChapterOf.plus {bookId chapterId : String} (h : t.HasChapterOf bookId chapterId)
    (r : BookRecord) : (t.plus r).HasChapterOf bookId chapterId := by
  obtain ⟨c, found, own⟩ := h
  have first : (t.plus r).chapterById? (some chapterId) = some c := by
    have rows : (t.plus r).chapters = t.chapters ++ r.chapters := rfl
    rw [chapterById?] at found ⊢
    rw [rows, List.find?_append, found, Option.some_or]
  exact ⟨c, first, own⟩

/-- A book whose rows are valid with the others was not there before. -/
theorem noBook_of_plus {bookId : String} (valid : t.Valid) (grown : (t.plus r).Valid)
    (shape : r.Shaped bookId) : ¬ t.HasBook bookId :=
  ((withBook_valid_iff valid r.book).1 (valid.bookOfPlus grown)).2 bookId shape.book

/-- Rows that come together keep the structure. -/
theorem structured_plus {bookId : String} (h : t.Structured) (valid : t.Valid)
    (grown : (t.plus r).Valid) (shape : r.Shaped bookId)
    (texts : ∀ c ∈ r.chapters, ∃ html, c.Holds html) : (t.plus r).Structured where
  books := by
    intro b hb
    rcases List.mem_append.1 hb with old | new
    · exact h.books b old
    · rw [List.mem_singleton.1 new, shape.book]
      rfl
  chapters := by
    have new := noBook_of_plus valid grown shape
    have others (c : Chapter) (hc : c ∈ t.chapters) : c.bookId ≠ bookId :=
      fun same => new (same ▸ valid.chapterBook c hc)
    exact numbered_append h.chapters others shape.chapterBook shape.chapterIndex
  toc := by
    have new := noBook_of_plus valid grown shape
    have others (e : TocEntry) (he : e ∈ t.toc) : e.bookId ≠ bookId :=
      fun same => new (same ▸ valid.tocBook e he)
    exact numbered_append h.toc others shape.tocBook shape.tocIndex
  tocChapter := by
    intro e he
    rcases List.mem_append.1 he with old | new
    · exact (h.tocChapter e old).plus r
    · -- The entry leads to a chapter of its record, and no other row has its identifier.
      obtain ⟨c, hc, id⟩ := List.mem_map.1 (shape.tocChapter e new)
      refine ⟨c, grown.chapterById?_iff.2 ⟨List.mem_append_right _ hc, id⟩, ?_⟩
      rw [shape.chapterBook c hc, shape.tocBook e new]
  bookmarkChapter := fun m hm => (h.bookmarkChapter m hm).plus r
  progress := h.progress
  texts := by
    intro c hc
    rcases List.mem_append.1 hc with old | new
    · exact h.texts c old
    · exact texts c new

theorem structured_putBookmark {bookId chapterId : String} {progress createdAt : Binary64}
    (h : t.Structured) (own : t.HasChapterOf bookId chapterId)
    (fraction : ∃ q, progress.unsignZero.value? = some q ∧ 0 ≤ q ∧ q ≤ 1)
    (put : t.putBookmark bookId chapterId progress createdAt = .ok t') : t'.Structured := by
  obtain ⟨_, _, _, _, rfl⟩ := putBookmark_ok_iff.1 put
  refine { h with bookmarkChapter := ?_, progress := ?_ }
  · intro m hm
    rcases List.mem_append.1 hm with old | new
    · exact h.bookmarkChapter m (List.mem_of_mem_filter old)
    · rw [List.mem_singleton.1 new]
      exact own
  · intro m hm
    rcases List.mem_append.1 hm with old | new
    · exact h.progress m (List.mem_of_mem_filter old)
    · rw [List.mem_singleton.1 new]
      exact fraction

theorem structured_deleteBookmark (h : t.Structured) (bookId : String) :
    (t.deleteBookmark bookId).Structured :=
  { h with
    bookmarkChapter := fun m hm => h.bookmarkChapter m (List.mem_of_mem_filter hm)
    progress := fun m hm => h.progress m (List.mem_of_mem_filter hm) }

end Tables

namespace Store

theorem structured_importBook {s : Store} (sound : s.Sound) (h : s.tables.Structured)
    {r : BookRecord} {x : Epub.ExtractedBook} {digest : String} {root : Uuid}
    (derived : r.Derived x digest root) : (s.importBook r).2.tables.Structured := by
  rcases importBook_cases sound r with kept | ⟨added, grown⟩
  · rw [kept]
    exact h
  · rw [added]
    exact Tables.structured_plus h sound.valid grown.valid derived.shaped derived.holds

theorem structured_setBookmark {s : Store} (isOpen : s.isOpen = true) (h : s.tables.Structured)
    (bookId chapterId : LooseText) (progress : Number) {now : Binary64} (told : now ≠ .nan) :
    (s.setBookmark bookId chapterId progress (.binary now)).2.tables.Structured := by
  cases check : s.checkPosition bookId chapterId progress with
  | error e =>
    rw [setBookmark_refused check]
    exact h
  | ok _ =>
    obtain ⟨b, c, t, rfl, rfl, put, eq⟩ := setBookmark_checked isOpen check told
    obtain ⟨fraction, _, chapter⟩ := (checkPosition_text_iff isOpen).1 check
    rw [eq]
    exact Tables.structured_putBookmark h chapter (Number.stored_fraction fraction) put

end Store

theorem Replay.structured {s t : Store} {past : List Collected} (h : Replay s past t)
    (sound : s.Sound) (structured : s.tables.Structured)
    (derived : ∀ c ∈ past, ∀ r, c.record? = some r → ∃ x digest root, r.Derived x digest root) :
    t.tables.Structured := by
  induction h with
  | nil => exact structured
  | @snoc past c t u before last ih =>
    have ready := ih fun c hc => derived c (List.mem_append_left _ hc)
    cases last with
    | unchanged => exact ready
    | failed => exact ready
    | held answer => exact ready
    | collided answer => exact ready
    | imported answer =>
      obtain ⟨x, digest, root, own⟩ :=
        derived _ (List.mem_append_right _ (List.mem_singleton_self _)) _ rfl
      have added := Store.structured_importBook (before.grows sound).1 ready own
      rwa [answer] at added

namespace Store

/-- Whatever is done with a library keeps its structure. -/
theorem Use.structured {s s' : Store} (use : Use s s') (h : s.Idle)
    (structured : s.tables.Structured) : s'.tables.Structured := by
  cases use with
  | importDerived derived =>
    exact structured_importBook h.toSound structured (derived_of_ok derived)
  | scan steps =>
    obtain ⟨past, ledger⟩ := ScanLoop.steps_ledger steps
    refine ledger.replay.structured h.toSound structured fun c hc r imported => ?_
    obtain ⟨bytes, _, _, made⟩ := (ledger.record hc imported).record
    obtain ⟨x, derived⟩ := derived_recordOf made
    exact ⟨x, _, _, derived⟩
  | setBookmark bookId chapterId progress told =>
    exact structured_setBookmark h.isOpen structured bookId chapterId progress told
  | clearBookmark bookId =>
    unfold deleteBookmark
    split
    · exact structured
    · exact Tables.structured_deleteBookmark structured bookId

/-- Whatever is done with a library keeps it. -/
theorem History.structured {s s' : Store} (history : History s s') (h : s.Idle)
    (structured : s.tables.Structured) : s'.tables.Structured := by
  induction history with
  | refl => exact structured
  | tail before use ih => exact use.structured (History.idle before h) ih

/-- The rows have the structure, and reading any chapter gives the text that it holds. The size of
every text of a running program is a number of 64 bits. -/
structure Structured (s : Store) : Prop where
  rows : s.tables.Structured
  reads : ∀ c ∈ s.tables.chapters, ∃ (id : String) (html : String), c.id = some id ∧ c.Holds html ∧
    ((Bytes.ofText html).length < 0x10000000000000000 → s.readChapter id = .ok (some html))

/-- Every library has the structure, whatever was done with it and whether that succeeded or not. -/
theorem library_structured {s : Store} (history : History .empty s) : s.Structured := by
  have idle := history.idle idle_empty
  have rows := history.structured idle_empty Tables.structured_empty
  refine ⟨rows, fun c hc => ?_⟩
  obtain ⟨html, named, content⟩ := rows.texts c hc
  obtain ⟨id, own⟩ := Option.isSome_iff_exists.1 named
  refine ⟨id, html, own, ⟨named, content⟩, fun small => ?_⟩
  refine readChapter_ok idle.isOpen (idle.valid.chapterById?_iff.2 ⟨hc, own⟩) ?_
  rw [content]
  exact Payload.decompressText_packed small

/-- A library of one page in which a reader has tried to set a bookmark anywhere. -/
theorem library_structured_onePage : ∃ r s,
    BookRecord.derive onePage "ab" Config.defaultRoot 19 = .ok r ∧
      empty.importBook r = (.ok true, s) ∧ ∀ bookId chapterId progress,
        (s.setBookmark bookId chapterId progress (.binary (.zero false))).2.Structured := by
  obtain ⟨r, made⟩ : ∃ r, BookRecord.derive onePage "ab" Config.defaultRoot 19 = .ok r :=
    exists_derive "ab" Config.defaultRoot (by decide) (by decide)
  have derived := derived_of_ok made
  have added := importBook_fresh idle_empty.toSound rfl derived.shaped (fresh_onePage made)
    (derived.countable holdable_onePage)
  refine ⟨r, _, made, added, fun bookId chapterId progress => ?_⟩
  have imported : Use empty (empty.plusAll [r]) := by
    have use := Use.importDerived empty made
    rwa [added] at use
  have told : Binary64.zero false ≠ .nan := by decide
  exact library_structured (.tail (.single imported)
    (.setBookmark _ bookId chapterId progress told))

end Store
end EpubLibrary
