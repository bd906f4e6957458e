import EpubLibrary.Catalog.Tables
import EpubLibrary.Proofs.Catalog.Draft
import Mathlib.Data.List.Nodup
import Mathlib.Data.List.Pairwise

/-!
# Rules of the tables

`Tables.Valid` is what the tables promise: identifiers and places do not repeat, and every row that
is referred to is there.
-/

namespace EpubLibrary

theorem eq_of_nodup_filterMap {α β : Type} {f : α → Option β} {l : List α} {a b : α} {d : β}
    (h : (l.filterMap f).Nodup) (ha : a ∈ l) (hb : b ∈ l) (fa : f a = some d)
    (fb : f b = some d) : a = b := by
  by_contra ne
  have apart := List.pairwise_filterMap.1 h
  have symm : Std.Symm fun a b => ∀ c, f a = some c → ∀ d, f b = some d → c ≠ d :=
    ⟨fun a b h c hc d hd eq => h d hd c hc eq.symm⟩
  exact apart.forall ha hb ne d fa d fb rfl

namespace Tables

def HasBook (t : Tables) (id : String) : Prop := some id ∈ t.books.map (·.id)

def HasChapter (t : Tables) (id : String) : Prop := some id ∈ t.chapters.map (·.id)

instance (t : Tables) (id : String) : Decidable (t.HasBook id) :=
  inferInstanceAs (Decidable (some id ∈ t.books.map (·.id)))

instance (t : Tables) (id : String) : Decidable (t.HasChapter id) :=
  inferInstanceAs (Decidable (some id ∈ t.chapters.map (·.id)))

def HasChapterOf (t : Tables) (bookId chapterId : String) : Prop :=
  ∃ c, t.chapterById? (some chapterId) = some c ∧ c.bookId = bookId

/-- The place of a chapter or of an entry: its book and its position there. -/
def placeOf (c : Chapter) : String × Int := (c.bookId, c.index)

def tocPlaceOf (e : TocEntry) : String × Int := (e.bookId, e.index)

/-- What must not repeat. Rows without an identifier do not count as repeated. -/
structure Unique (t : Tables) : Prop where
  bookIds : (t.books.filterMap (·.id)).Nodup
  digests : (t.books.map (·.contentHash)).Nodup
  chapterIds : (t.chapters.filterMap (·.id)).Nodup
  chapterPlaces : (t.chapters.map placeOf).Nodup
  tocIds : (t.toc.filterMap (·.id)).Nodup
  tocPlaces : (t.toc.map tocPlaceOf).Nodup
  bookmarkBooks : (t.bookmarks.map (·.bookId)).Nodup

/-- What must be there: the rows that others refer to. -/
structure Closed (t : Tables) : Prop where
  chapterBook : ∀ c ∈ t.chapters, t.HasBook c.bookId
  tocBook : ∀ e ∈ t.toc, t.HasBook e.bookId
  tocChapter : ∀ e ∈ t.toc, t.HasChapter e.chapterId
  bookmarkBook : ∀ m ∈ t.bookmarks, t.HasBook m.bookId
  bookmarkChapter : ∀ m ∈ t.bookmarks, t.HasChapter m.chapterId

/-- The rules of the tables. -/
structure Valid (t : Tables) : Prop extends Unique t, Closed t

theorem valid_empty : empty.Valid := by
  constructor <;> constructor <;> simp [empty]

/-! ## Lookups -/

theorem names_iff {id own : Option String} :
    names id own = true ↔ ∃ i, id = some i ∧ own = some i := by
  cases id <;> simp [names]

theorem book?_isSome {t : Tables} {id : Option String} :
    (t.book? id).isSome = true ↔ ∃ i, id = some i ∧ t.HasBook i := by
  simp only [book?, List.find?_isSome, names_iff, HasBook, List.mem_map]
  constructor
  · rintro ⟨b, hb, i, rfl, own⟩
    exact ⟨i, rfl, b, hb, own⟩
  · rintro ⟨i, rfl, b, hb, own⟩
    exact ⟨b, hb, i, rfl, own⟩

theorem chapterById?_isSome {t : Tables} {id : Option String} :
    (t.chapterById? id).isSome = true ↔ ∃ i, id = some i ∧ t.HasChapter i := by
  simp only [chapterById?, List.find?_isSome, names_iff, HasChapter, List.mem_map]
  constructor
  · rintro ⟨c, hc, i, rfl, own⟩
    exact ⟨i, rfl, c, hc, own⟩
  · rintro ⟨i, rfl, c, hc, own⟩
    exact ⟨c, hc, i, rfl, own⟩

theorem book?_free {t : Tables} {id : Option String} :
    (t.book? id).isSome = false ↔ ∀ i, id = some i → ¬ t.HasBook i := by
  rw [Bool.eq_false_iff, Ne, book?_isSome, not_exists]
  simp only [not_and]

theorem chapterById?_free {t : Tables} {id : Option String} :
    (t.chapterById? id).isSome = false ↔ ∀ i, id = some i → ¬ t.HasChapter i := by
  rw [Bool.eq_false_iff, Ne, chapterById?_isSome, not_exists]
  simp only [not_and]

theorem book?_isNone {t : Tables} {id : String} :
    (t.book? (some id)).isNone = false ↔ t.HasBook id := by
  rw [← Option.not_isSome, Bool.not_eq_false', book?_isSome]
  simp

theorem chapterById?_isNone {t : Tables} {id : String} :
    (t.chapterById? (some id)).isNone = false ↔ t.HasChapter id := by
  rw [← Option.not_isSome, Bool.not_eq_false', chapterById?_isSome]
  simp

theorem HasChapterOf.hasChapter {t : Tables} {bookId chapterId : String}
    (h : t.HasChapterOf bookId chapterId) : t.HasChapter chapterId := by
  obtain ⟨c, found, _⟩ := h
  rw [← chapterById?_isNone, found]
  rfl

theorem bookByHash?_free {t : Tables} {hash : String} :
    (t.bookByHash? (some hash)).isSome = false ↔ hash ∉ t.books.map (·.contentHash) := by
  simp [bookByHash?, names]

theorem chapter?_free {t : Tables} {bookId : String} {index : Int} :
    (t.chapter? bookId index).isSome = false ↔ (bookId, index) ∉ t.chapters.map placeOf := by
  simp [chapter?, placeOf]

theorem tocPlace_free {t : Tables} {bookId : String} {index : Int} :
    (t.toc.any fun f => f.bookId = bookId && f.index = index) = false ↔
      (bookId, index) ∉ t.toc.map tocPlaceOf := by
  simp [tocPlaceOf]

theorem tocId_free {t : Tables} {id : Option String} :
    t.toc.any (names id ·.id) = false ↔ ∀ i, id = some i → some i ∉ t.toc.map (·.id) := by
  cases id <;> simp [names]

@[simp] theorem mem_contentHashes {t : Tables} {d : String} :
    d ∈ t.contentHashes ↔ d ∈ t.books.map (·.contentHash) := by
  rw [contentHashes, DigestSet.mem_ofList]

/-! ## Lists that do not repeat -/

theorem nodup_map_append {α β : Type} {f : α → β} {l m : List α} : ((l ++ m).map f).Nodup ↔
    (l.map f).Nodup ∧ (m.map f).Nodup ∧ ∀ a ∈ m, f a ∉ l.map f := by
  rw [List.map_append, List.nodup_append']
  refine and_congr_right fun _ => and_congr_right fun _ => ?_
  constructor
  · intro apart a ha old
    exact apart old (List.mem_map_of_mem ha)
  · intro apart b old new
    obtain ⟨a, ha, rfl⟩ := List.mem_map.1 new
    exact apart a ha old

theorem nodup_filterMap_append {α β : Type} {f : α → Option β} {l m : List α} :
    ((l ++ m).filterMap f).Nodup ↔ (l.filterMap f).Nodup ∧ (m.filterMap f).Nodup ∧
      ∀ a ∈ m, ∀ b, f a = some b → some b ∉ l.map f := by
  rw [List.filterMap_append, List.nodup_append']
  refine and_congr_right fun _ => and_congr_right fun _ => ?_
  constructor
  · intro apart a ha b own old
    obtain ⟨c, hc, own'⟩ := List.mem_map.1 old
    exact apart (List.mem_filterMap.2 ⟨c, hc, own'⟩) (List.mem_filterMap.2 ⟨a, ha, own⟩)
  · intro apart b old new
    obtain ⟨a, ha, own⟩ := List.mem_filterMap.1 new
    obtain ⟨c, hc, own'⟩ := List.mem_filterMap.1 old
    exact apart a ha b own (List.mem_map.2 ⟨c, hc, own'⟩)

theorem nodup_map_concat {α β : Type} {f : α → β} {l : List α} (h : (l.map f).Nodup) (a : α) :
    ((l ++ [a]).map f).Nodup ↔ f a ∉ l.map f := by
  simp only [nodup_map_append, h, List.map_singleton, List.nodup_singleton, List.mem_singleton,
    forall_eq, true_and]

theorem nodup_filterMap_concat {α β : Type} {f : α → Option β} {l : List α}
    (h : (l.filterMap f).Nodup) (a : α) :
    ((l ++ [a]).filterMap f).Nodup ↔ ∀ b, f a = some b → some b ∉ l.map f := by
  have one : ([a].filterMap f).Nodup := by cases own : f a <;> simp [own]
  simp only [nodup_filterMap_append, h, one, List.mem_singleton, forall_eq, true_and]

/-! ## More rows -/

def withBook (t : Tables) (b : Book) : Tables := { t with books := t.books ++ [b] }

def withChapters (t : Tables) (cs : List Chapter) : Tables :=
  { t with chapters := t.chapters ++ cs }

def withToc (t : Tables) (es : List TocEntry) : Tables := { t with toc := t.toc ++ es }

/-- The tables with every row of a record. -/
def plus (t : Tables) (r : BookRecord) : Tables :=
  ((t.withBook r.book).withChapters r.chapters).withToc r.toc

@[simp] theorem withChapters_nil (t : Tables) : t.withChapters [] = t := by
  simp [withChapters]

@[simp] theorem withToc_nil (t : Tables) : t.withToc [] = t := by
  simp [withToc]

theorem withChapters_append (t : Tables) (cs ds : List Chapter) :
    (t.withChapters cs).withChapters ds = t.withChapters (cs ++ ds) := by
  simp [withChapters]

theorem withToc_append (t : Tables) (es fs : List TocEntry) :
    (t.withToc es).withToc fs = t.withToc (es ++ fs) := by
  simp [withToc]

theorem HasBook.withBook {t : Tables} {id : String} (h : t.HasBook id) (b : Book) :
    (t.withBook b).HasBook id := by
  simp only [HasBook, Tables.withBook, List.map_append]
  exact List.mem_append_left _ h

theorem HasChapter.withChapters {t : Tables} {id : String} (h : t.HasChapter id)
    (cs : List Chapter) : (t.withChapters cs).HasChapter id := by
  simp only [HasChapter, Tables.withChapters, List.map_append]
  exact List.mem_append_left _ h

/-- Where nothing repeats, nothing repeats with fewer rows. -/
theorem Unique.of_sublist {t u : Tables} (h : u.Unique) (books : t.books.Sublist u.books)
    (chapters : t.chapters.Sublist u.chapters) (toc : t.toc.Sublist u.toc)
    (bookmarks : t.bookmarks.Sublist u.bookmarks) : t.Unique where
  bookIds := h.bookIds.sublist (books.filterMap _)
  digests := h.digests.sublist (books.map _)
  chapterIds := h.chapterIds.sublist (chapters.filterMap _)
  chapterPlaces := h.chapterPlaces.sublist (chapters.map _)
  tocIds := h.tocIds.sublist (toc.filterMap _)
  tocPlaces := h.tocPlaces.sublist (toc.map _)
  bookmarkBooks := h.bookmarkBooks.sublist (bookmarks.map _)

theorem Closed.withBook {t : Tables} (h : t.Closed) (b : Book) : (t.withBook b).Closed where
  chapterBook := fun c hc => (h.chapterBook c hc).withBook b
  tocBook := fun e he => (h.tocBook e he).withBook b
  tocChapter := h.tocChapter
  bookmarkBook := fun m hm => (h.bookmarkBook m hm).withBook b
  bookmarkChapter := h.bookmarkChapter

theorem Closed.withChapters {t : Tables} (h : t.Closed) {cs : List Chapter}
    (books : ∀ c ∈ cs, t.HasBook c.bookId) : (t.withChapters cs).Closed where
  chapterBook := by
    intro c hc
    rcases List.mem_append.1 hc with hc | hc
    · exact h.chapterBook c hc
    · exact books c hc
  tocBook := h.tocBook
  tocChapter := fun e he => (h.tocChapter e he).withChapters cs
  bookmarkBook := h.bookmarkBook
  bookmarkChapter := fun m hm => (h.bookmarkChapter m hm).withChapters cs

theorem Closed.withToc {t : Tables} (h : t.Closed) {es : List TocEntry}
    (books : ∀ e ∈ es, t.HasBook e.bookId) (chapters : ∀ e ∈ es, t.HasChapter e.chapterId) :
    (t.withToc es).Closed where
  chapterBook := h.chapterBook
  tocBook := by
    intro e he
    rcases List.mem_append.1 he with he | he
    · exact h.tocBook e he
    · exact books e he
  tocChapter := by
    intro e he
    rcases List.mem_append.1 he with he | he
    · exact h.tocChapter e he
    · exact chapters e he
  bookmarkBook := h.bookmarkBook
  bookmarkChapter := h.bookmarkChapter

theorem withBook_valid_iff {t : Tables} (h : t.Valid) (b : Book) :
    (t.withBook b).Valid ↔
      b.contentHash ∉ t.books.map (·.contentHash) ∧ ∀ i, b.id = some i → ¬ t.HasBook i := by
  constructor
  · intro v
    exact ⟨(nodup_map_concat h.digests b).1 v.digests,
      (nodup_filterMap_concat h.bookIds b).1 v.bookIds⟩
  · rintro ⟨digest, id⟩
    exact ⟨{ h.toUnique with
      bookIds := (nodup_filterMap_concat h.bookIds b).2 id
      digests := (nodup_map_concat h.digests b).2 digest }, h.toClosed.withBook b⟩

theorem withChapter_valid_iff {t : Tables} (h : t.Valid) (c : Chapter) :
    (t.withChapters [c]).Valid ↔ placeOf c ∉ t.chapters.map placeOf ∧
      (∀ i, c.id = some i → ¬ t.HasChapter i) ∧ t.HasBook c.bookId := by
  constructor
  · intro v
    exact ⟨(nodup_map_concat h.chapterPlaces c).1 v.chapterPlaces,
      (nodup_filterMap_concat h.chapterIds c).1 v.chapterIds,
      v.chapterBook c (List.mem_append_right _ (List.mem_singleton_self c))⟩
  · rintro ⟨place, id, book⟩
    exact ⟨{ h.toUnique with
      chapterIds := (nodup_filterMap_concat h.chapterIds c).2 id
      chapterPlaces := (nodup_map_concat h.chapterPlaces c).2 place },
      h.toClosed.withChapters (by simpa using book)⟩

theorem withTocEntry_valid_iff {t : Tables} (h : t.Valid) (e : TocEntry) :
    (t.withToc [e]).Valid ↔ tocPlaceOf e ∉ t.toc.map tocPlaceOf ∧
      (∀ i, e.id = some i → some i ∉ t.toc.map (·.id)) ∧ t.HasBook e.bookId ∧
      t.HasChapter e.chapterId := by
  have last : e ∈ (t.withToc [e]).toc := List.mem_append_right _ (List.mem_singleton_self e)
  constructor
  · intro v
    exact ⟨(nodup_map_concat h.tocPlaces e).1 v.tocPlaces,
      (nodup_filterMap_concat h.tocIds e).1 v.tocIds, v.tocBook e last, v.tocChapter e last⟩
  · rintro ⟨place, id, book, chapter⟩
    exact ⟨{ h.toUnique with
      tocIds := (nodup_filterMap_concat h.tocIds e).2 id
      tocPlaces := (nodup_map_concat h.tocPlaces e).2 place },
      h.toClosed.withToc (by simpa using book) (by simpa using chapter)⟩

/-! Fewer rows of valid tables are valid tables, if what they refer to stays. -/

theorem Valid.fewerChapters {t : Tables} (h : t.Valid) {cs ds : List Chapter}
    (v : (t.withChapters (cs ++ ds)).Valid) : (t.withChapters cs).Valid := by
  have part : (t.chapters ++ cs).Sublist (t.chapters ++ (cs ++ ds)) :=
    (List.sublist_append_left cs ds).append_left t.chapters
  refine ⟨v.toUnique.of_sublist (.refl _) part (.refl _) (.refl _), h.toClosed.withChapters ?_⟩
  intro c hc
  exact v.chapterBook c (List.mem_append_right _ (List.mem_append_left _ hc))

theorem Valid.fewerEntries {t : Tables} (h : t.Valid) {es fs : List TocEntry}
    (v : (t.withToc (es ++ fs)).Valid) : (t.withToc es).Valid := by
  have part : (t.toc ++ es).Sublist (t.toc ++ (es ++ fs)) :=
    (List.sublist_append_left es fs).append_left t.toc
  have mem (e : TocEntry) (he : e ∈ es) : e ∈ (t.withToc (es ++ fs)).toc :=
    List.mem_append_right _ (List.mem_append_left _ he)
  exact ⟨v.toUnique.of_sublist (.refl _) (.refl _) part (.refl _),
    h.toClosed.withToc (fun e he => v.tocBook e (mem e he)) fun e he => v.tocChapter e (mem e he)⟩

theorem Valid.bookOfPlus {t : Tables} (h : t.Valid) {r : BookRecord} (v : (t.plus r).Valid) :
    (t.withBook r.book).Valid :=
  ⟨v.toUnique.of_sublist (.refl _) (List.sublist_append_left _ _) (List.sublist_append_left _ _)
    (.refl _), h.toClosed.withBook r.book⟩

theorem Valid.chaptersOfPlus {t : Tables} (h : t.Valid) {r : BookRecord} (v : (t.plus r).Valid) :
    ((t.withBook r.book).withChapters r.chapters).Valid :=
  ⟨v.toUnique.of_sublist (.refl _) (.refl _) (List.sublist_append_left _ _) (.refl _),
    (h.toClosed.withBook r.book).withChapters fun c hc =>
      v.chapterBook c (List.mem_append_right _ hc)⟩

/-! ## Putting in a row -/

theorem refuse_ok_iff {broken : Bool} {v : Violation} {u : Unit} :
    refuse broken v = .ok u ↔ broken = false := by
  cases broken <;> simp [refuse]

/-- A book can be put in exactly if the tables with it keep the rules: what is refused would break
one. -/
theorem addBook_ok_iff {t t' : Tables} (h : t.Valid) (draft : BookDraft) :
    t.addBook draft = .ok t' ↔ ∃ b : Book, draft = b.draft ∧ t' = t.withBook b ∧ t'.Valid := by
  simp only [addBook, bind_ok_iff, BookDraft.row_ok_iff, refuse_ok_iff, exists_const,
    bookByHash?_free, book?_free]
  constructor
  · rintro ⟨b, row, digest, id, eq⟩
    cases eq
    exact ⟨b, row, rfl, (withBook_valid_iff h b).2 ⟨digest, id⟩⟩
  · rintro ⟨b, row, rfl, v⟩
    obtain ⟨digest, id⟩ := (withBook_valid_iff h b).1 v
    exact ⟨b, row, digest, id, rfl⟩

/-- A chapter can be put in exactly if its cells fit and the tables with it keep the rules. -/
theorem addChapter_ok_iff {t t' : Tables} (h : t.Valid) (draft : ChapterDraft) :
    t.addChapter draft = .ok t' ↔ ∃ c : Chapter,
      draft = c.draft ∧ Cell.fits c.index = true ∧ t' = t.withChapters [c] ∧ t'.Valid := by
  simp only [addChapter, bind_ok_iff, ChapterDraft.row_ok_iff, refuse_ok_iff, exists_const,
    chapter?_free, chapterById?_free, book?_isNone]
  constructor
  · rintro ⟨c, ⟨row, size⟩, place, id, book, eq⟩
    cases eq
    exact ⟨c, row, size, rfl, (withChapter_valid_iff h c).2 ⟨place, id, book⟩⟩
  · rintro ⟨c, row, size, rfl, v⟩
    obtain ⟨place, id, book⟩ := (withChapter_valid_iff h c).1 v
    exact ⟨c, ⟨row, size⟩, place, id, book, rfl⟩

/-- An entry can be put in exactly if its cells fit and the tables with it keep the rules. -/
theorem addTocEntry_ok_iff {t t' : Tables} (h : t.Valid) (draft : TocDraft) :
    t.addTocEntry draft = .ok t' ↔ ∃ e : TocEntry,
      draft = e.draft ∧ Cell.fits e.index = true ∧ t' = t.withToc [e] ∧ t'.Valid := by
  simp only [addTocEntry, bind_ok_iff, TocDraft.row_ok_iff, refuse_ok_iff, exists_const,
    tocPlace_free, tocId_free, book?_isNone, chapterById?_isNone]
  constructor
  · rintro ⟨e, ⟨row, size⟩, place, id, book, chapter, eq⟩
    cases eq
    exact ⟨e, row, size, rfl, (withTocEntry_valid_iff h e).2 ⟨place, id, book, chapter⟩⟩
  · rintro ⟨e, row, size, rfl, v⟩
    obtain ⟨place, id, book, chapter⟩ := (withTocEntry_valid_iff h e).1 v
    exact ⟨e, ⟨row, size⟩, place, id, book, chapter, rfl⟩

/-! ## Bookmarks -/

theorem putBookmark_ok_iff {t t' : Tables} {bookId chapterId : String}
    {progress createdAt : Binary64} :
    t.putBookmark bookId chapterId progress createdAt = .ok t' ↔
      progress ≠ .nan ∧ createdAt ≠ .nan ∧ t.HasBook bookId ∧ t.HasChapter chapterId ∧
      t' = { t with
        bookmarks := t.bookmarks.filter (·.bookId ≠ bookId) ++
          [⟨t.lastBookmarkId + 1, bookId, chapterId, progress.unsignZero, createdAt.unsignZero⟩]
        lastBookmarkId := t.lastBookmarkId + 1 } := by
  simp only [putBookmark, bind_ok_iff, refuse_ok_iff, exists_const, decide_eq_false_iff_not,
    book?_isNone, chapterById?_isNone]
  constructor
  · rintro ⟨fraction, time, book, chapter, eq⟩
    cases eq
    exact ⟨fraction, time, book, chapter, rfl⟩
  · rintro ⟨fraction, time, book, chapter, rfl⟩
    exact ⟨fraction, time, book, chapter, rfl⟩

/-- Bookmarks come within the rules. -/
theorem putBookmark_valid {t t' : Tables} {bookId chapterId : String}
    {progress createdAt : Binary64} (h : t.Valid)
    (put : t.putBookmark bookId chapterId progress createdAt = .ok t') : t'.Valid := by
  obtain ⟨_, _, book, chapter, rfl⟩ := putBookmark_ok_iff.1 put
  have others : ((t.bookmarks.filter (·.bookId ≠ bookId)).map (·.bookId)).Nodup :=
    h.bookmarkBooks.sublist (List.filter_sublist.map _)
  refine ⟨{ h.toUnique with bookmarkBooks := ?_ },
    { h.toClosed with bookmarkBook := ?_, bookmarkChapter := ?_ }⟩
  · exact (nodup_map_concat others _).2 (by simp)
  · intro m hm
    rcases List.mem_append.1 hm with hm | hm
    · exact h.bookmarkBook m (List.mem_of_mem_filter hm)
    · rw [List.mem_singleton.1 hm]
      exact book
  · intro m hm
    rcases List.mem_append.1 hm with hm | hm
    · exact h.bookmarkChapter m (List.mem_of_mem_filter hm)
    · rw [List.mem_singleton.1 hm]
      exact chapter

/-- Bookmarks go within the rules, as no row refers to one. -/
theorem deleteBookmark_valid {t : Tables} (h : t.Valid) (bookId : String) :
    (t.deleteBookmark bookId).Valid :=
  ⟨h.toUnique.of_sublist (.refl _) (.refl _) (.refl _) List.filter_sublist,
    { h.toClosed with
      bookmarkBook := fun m hm => h.bookmarkBook m (List.mem_of_mem_filter hm)
      bookmarkChapter := fun m hm => h.bookmarkChapter m (List.mem_of_mem_filter hm) }⟩

end Tables
end EpubLibrary
