import EpubLibrary.Proofs.Scan.History
import EpubLibrary.Settings.Config

namespace EpubLibrary

open Epub (ExtractedBook)

def Book.metadata (b : Book) : Epub.BookMetadata :=
  ⟨b.title, b.language, b.identifier, b.creator, b.description, b.publisher⟩

/-- As large as a running program can hold: 64 bits number the chapters, the entries and the bytes
of every chapter. -/
structure Epub.ExtractedBook.Holdable (x : ExtractedBook) : Prop where
  chapters : x.chapters.length ≤ 0x8000000000000000
  toc : x.toc.length ≤ 0x8000000000000000
  bytes : ∀ html ∈ x.chapters, (Bytes.ofText html).length < 0x10000000000000000

theorem BookRecord.Derived.countable {x : ExtractedBook} {digest : String} {root : Uuid}
    {r : BookRecord} (h : r.Derived x digest root) (holdable : x.Holdable) : r.Countable where
  chapters := by
    rw [h.chapters, List.length_map, List.length_zipIdx]
    exact holdable.chapters
  toc := by
    rw [← h.toc.length_eq, List.length_zipIdx]
    exact holdable.toc

/-- The queries of a store give the book that was extracted: its metadata by identifier and by
digest, its chapters in their order and with their texts, and its table of contents. -/
structure Store.Gives (s : Store) (bookId digest : String) (x : ExtractedBook) : Prop where
  book : ∃ b, s.look (·.book? (some bookId)) = .ok (some b) ∧
    s.look (·.bookByHash? (some digest)) = .ok (some b) ∧ b.metadata = x.metadata ∧
    b.id = some bookId ∧ b.contentHash = digest
  chapters : ∃ cs, s.look (·.listChapters bookId) = .ok cs ∧
    cs.map (·.index) = (List.range x.chapters.length).map Int.ofNat ∧
    (∀ i : Nat, i < x.chapters.length → s.chapter? bookId i = .ok cs[i]?) ∧
    List.Forall₂ (fun html c => ∃ id : String, c.id = some id ∧ s.readChapter id = .ok (some html))
      x.chapters cs
  toc : ∃ es, s.look (·.tocOf bookId) = .ok es ∧
    List.Forall₂ (fun entry e => e.title = entry.2 ∧
      ∃ c, s.look (·.chapterById? (some e.chapterId)) = .ok (some c) ∧ c.bookId = bookId ∧
        c.index = entry.1) x.toc es

theorem pairwise_of_numbered {α : Type} {l : List α} {index : α → Int}
    (numbered : l.map index = (List.range l.length).map Int.ofNat) :
    l.Pairwise fun a b => (decide (index a ≤ index b)) = true := by
  have ascending : ((List.range l.length).map Int.ofNat).Pairwise (· ≤ ·) :=
    List.pairwise_map.2 (List.pairwise_lt_range.imp fun lt => Int.ofNat_le.2 (Nat.le_of_lt lt))
  rw [← numbered] at ascending
  exact (List.pairwise_map.1 ascending).imp decide_eq_true

theorem index_getElem {α : Type} {l : List α} {index : α → Int}
    (numbered : l.map index = (List.range l.length).map Int.ofNat) {i : Nat}
    (inside : i < l.length) : index l[i] = i := by
  have at_i := congrArg (·[i]?) numbered
  simpa [inside] using at_i

theorem filter_own {α : Type} {book : α → String} {id : String} {old new : List α}
    (others : ∀ a ∈ old, book a ≠ id) (own : ∀ a ∈ new, book a = id) :
    (old ++ new).filter (fun a => book a = id) = new := by
  have none : old.filter (fun a => book a = id) = [] :=
    List.filter_eq_nil_iff.2 fun a ha => by simpa using others a ha
  have all : new.filter (fun a => book a = id) = new :=
    List.filter_eq_self.2 fun a ha => decide_eq_true (own a ha)
  rw [List.filter_append, none, all, List.nil_append]

namespace Tables

section
variable {t t' : Tables} {r : BookRecord} {bookId : String} (valid : t.Valid)
  (shape : r.Shaped bookId) (fresh : r.Fresh t) (ext : (t.plus r).Extends t')
include valid shape fresh ext

/-- The chapters of a book that was added are listed as they were added. -/
theorem listChapters_plus : t'.listChapters bookId = r.chapters := by
  have noBook := noBook_of_fresh shape fresh
  have others (c : Chapter) (hc : c ∈ t.chapters) : c.bookId ≠ bookId :=
    fun same => noBook (same ▸ valid.chapterBook c hc)
  have rows : (t.plus r).chapters = t.chapters ++ r.chapters := rfl
  rw [listChapters, ext.chaptersOf bookId (hasBook_plus shape), rows,
    filter_own others shape.chapterBook]
  exact List.mergeSort_of_pairwise (pairwise_of_numbered shape.chapterIndex)

theorem tocOf_plus : t'.tocOf bookId = r.toc := by
  have noBook := noBook_of_fresh shape fresh
  have others (e : TocEntry) (he : e ∈ t.toc) : e.bookId ≠ bookId :=
    fun same => noBook (same ▸ valid.tocBook e he)
  have rows : (t.plus r).toc = t.toc ++ r.toc := rfl
  rw [tocOf, ext.tocOf bookId (hasBook_plus shape), rows, filter_own others shape.tocBook]
  exact List.mergeSort_of_pairwise (pairwise_of_numbered shape.tocIndex)

end

end Tables

namespace Store

theorem look_open {α : Type} {s : Store} (isOpen : s.isOpen = true) (ask : Tables → α) :
    s.look ask = .ok (ask s.tables) := by
  rw [look, query, if_pos isOpen]

theorem lookBy_open {α : Type} {s : Store} (isOpen : s.isOpen = true) (key : String)
    (ask : Tables → String → α) : s.lookBy key ask = .ok (ask s.tables key) := by
  rw [lookBy, query, if_pos isOpen]
  rfl

theorem readChapter_ok {s : Store} (isOpen : s.isOpen = true) {id text : String} {c : Chapter}
    (found : s.tables.chapterById? (some id) = some c)
    (reads : Payload.decompressText c.content = .ok text) :
    s.readChapter id = .ok (some text) := by
  simp only [readChapter, lookBy_open isOpen, found, reads, Except.mapError, bind, Except.bind]
  rfl

section
variable {s : Store} {t : Tables} {x : ExtractedBook} {digest : String} {root : Uuid}
  {r : BookRecord} (isOpen : s.isOpen = true) (validNow : s.tables.Valid)
  (derived : r.Derived x digest root) (holdable : x.Holdable) (ext : (t.plus r).Extends s.tables)

include ext in
theorem mem_chapters_of_extends {c : Chapter} (mem : c ∈ r.chapters) : c ∈ s.tables.chapters :=
  ext.chapters.subset (List.mem_append_right _ mem)

include derived in
theorem chapters_derived {i : Nat} (inside : i < x.chapters.length)
    (inside' : i < r.chapters.length) :
    r.chapters[i] = .derived (Identity.book root digest) x.chapters[i] i := by
  simp [derived.chapters]

include isOpen validNow derived ext

/-- The book is found by its identifier and by its digest, and is the same one. -/
theorem gives_book : ∃ b,
    s.look (·.book? (some (Identity.book root digest).toText)) = .ok (some b) ∧
    s.look (·.bookByHash? (some digest)) = .ok (some b) ∧ b.metadata = x.metadata ∧
    b.id = some (Identity.book root digest).toText ∧ b.contentHash = digest := by
  have mem : r.book ∈ s.tables.books :=
    ext.books.subset (List.mem_append_right _ (List.mem_singleton_self _))
  have id : r.book.id = some (Identity.book root digest).toText := by rw [derived.book]
  have hash : r.book.contentHash = digest := by rw [derived.book]
  refine ⟨r.book, ?_, ?_, ?_, id, hash⟩
  · rw [look_open isOpen, validNow.book?_iff.2 ⟨mem, id⟩]
  · rw [look_open isOpen, validNow.bookByHash?_iff.2 ⟨mem, hash⟩]
  · rw [derived.book]
    rfl

/-- An entry names the chapter at the position that it leads to. -/
theorem gives_entry (leads : ∀ entry ∈ x.toc, 0 ≤ entry.1 ∧ entry.1 < x.chapters.length)
    {i : Nat} (inside : i < x.toc.length) (inside' : i < r.toc.length) :
    r.toc[i].title = x.toc[i].2 ∧ ∃ c,
      s.look (·.chapterById? (some r.toc[i].chapterId)) = .ok (some c) ∧
      c.bookId = (Identity.book root digest).toText ∧ c.index = x.toc[i].1 := by
  have entry := derived.toc.get (by rw [List.length_zipIdx]; exact inside) inside'
  rw [List.get_eq_getElem, List.get_eq_getElem, List.getElem_zipIdx, Nat.zero_add] at entry
  obtain ⟨low, high⟩ := leads _ (List.getElem_mem inside)
  have length : r.chapters.length = x.chapters.length := by simp [derived.chapters]
  have within : x.toc[i].1.toNat < r.chapters.length := by omega
  have leadsTo := entry.chapter
  rw [atPosition?, if_pos low, List.getElem?_eq_getElem within, Option.bind_some] at leadsTo
  have mem := List.getElem_mem within
  refine ⟨entry.title, r.chapters[x.toc[i].1.toNat], ?_, derived.shaped.chapterBook _ mem, ?_⟩
  · rw [look_open isOpen,
      validNow.chapterById?_iff.2 ⟨mem_chapters_of_extends ext mem, leadsTo⟩]
  · rw [index_getElem derived.shaped.chapterIndex within]
    omega

include holdable

/-- The text of a chapter is read back from its payload. -/
theorem gives_text {i : Nat} (inside : i < x.chapters.length) (inside' : i < r.chapters.length) :
    ∃ id : String, r.chapters[i].id = some id ∧ s.readChapter id = .ok (some x.chapters[i]) := by
  have row := chapters_derived derived inside inside'
  have mem := mem_chapters_of_extends ext (List.getElem_mem inside')
  have id : r.chapters[i].id = some (Identity.chapter (Identity.book root digest) i
      (Bytes.ofText x.chapters[i])).toText := by rw [row]; rfl
  refine ⟨_, id, readChapter_ok isOpen (validNow.chapterById?_iff.2 ⟨mem, id⟩) ?_⟩
  rw [row]
  exact Payload.decompressText_packed (holdable.bytes _ (List.getElem_mem inside))

theorem gives_place {i : Nat} (inside : i < r.chapters.length) :
    s.chapter? (Identity.book root digest).toText i = .ok (some r.chapters[i]) := by
  have countable := (derived.countable holdable).chapters
  have small : Cell.fits i = true := by
    simp only [Cell.fits, Bool.and_eq_true, decide_eq_true_eq]
    omega
  have mem := mem_chapters_of_extends ext (List.getElem_mem inside)
  have book := derived.shaped.chapterBook _ (List.getElem_mem inside)
  have index := index_getElem derived.shaped.chapterIndex inside
  rw [Store.chapter?, query, if_pos isOpen, Cell.text_text, Cell.integer, if_pos small]
  simp only [bind, Except.bind, validNow.chapter?_iff.2 ⟨mem, book, index⟩]
  rfl

/-- A book whose record was added to tables of which it took nothing is given back, as long as books
are only added. -/
theorem gives_of_extends (valid : t.Valid) (fresh : r.Fresh t)
    (leads : ∀ entry ∈ x.toc, 0 ≤ entry.1 ∧ entry.1 < x.chapters.length) :
    s.Gives (Identity.book root digest).toText digest x where
  book := gives_book isOpen validNow derived ext
  chapters := by
    have length : x.chapters.length = r.chapters.length := by simp [derived.chapters]
    refine ⟨r.chapters, ?_, ?_, fun i inside => ?_, ?_⟩
    · rw [look_open isOpen, Tables.listChapters_plus valid derived.shaped fresh ext]
    · rw [length]
      exact derived.shaped.chapterIndex
    · have inside : i < r.chapters.length := length ▸ inside
      rw [gives_place isOpen validNow derived holdable ext inside, List.getElem?_eq_getElem inside]
    · refine List.forall₂_iff_get.2 ⟨length, fun i inside inside' => ?_⟩
      exact gives_text isOpen validNow derived holdable ext inside inside'
  toc := by
    have length : x.toc.length = r.toc.length := by
      rw [← derived.toc.length_eq, List.length_zipIdx]
    refine ⟨r.toc, ?_, List.forall₂_iff_get.2 ⟨length, fun i inside inside' => ?_⟩⟩
    · rw [look_open isOpen, Tables.tocOf_plus valid derived.shaped fresh ext]
    · exact gives_entry isOpen validNow derived ext leads inside inside'

end

def onePage : ExtractedBook :=
  ⟨⟨"Page", "en", "urn:page", none, some "One page", none⟩, ["<p>a</p>"], [(0, "First")]⟩

theorem fresh_onePage {level : Int} {r : BookRecord}
    (made : BookRecord.derive onePage "ab" Config.defaultRoot level = .ok r) :
    r.Fresh Store.empty.tables := by
  have derived := derived_of_ok made
  have entries := map_eq_of_forall₂ derived.toc (fun _ _ entry => entry.id.symm)
  refine ⟨List.not_mem_nil, List.not_mem_nil, ?_, fun _ _ => List.not_mem_nil, ?_,
    fun _ _ => List.not_mem_nil⟩
  · rw [derived.chapters]
    exact List.nodup_singleton _
  · rw [← entries]
    exact List.nodup_singleton _

theorem holdable_onePage : onePage.Holdable where
  chapters := by decide
  toc := by decide
  bytes := by decide +kernel

end Store

end EpubLibrary
