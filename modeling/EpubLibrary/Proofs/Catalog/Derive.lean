import EpubLibrary.Catalog.Derive
import EpubLibrary.Proofs.Catalog.Import
import EpubLibrary.Proofs.Payload
import Mathlib.Data.List.Range

namespace EpubLibrary

open Epub (ExtractedBook)

/-! ## The rows of a derived record -/

def Chapter.derived (bookId : Uuid) (html : String) (index : Nat) : Chapter :=
  ⟨some (Identity.chapter bookId index (Bytes.ofText html)).toText, bookId.toText, index,
    Payload.packed (Bytes.ofText html)⟩

/-- Is the row that of an entry at a position, among the chapters of its book? -/
structure TocEntry.Derived (bookId : Uuid) (chapters : List Chapter)
    (entry : (Int × String) × Nat) (e : TocEntry) : Prop where
  id : e.id = some (Identity.tocEntry bookId entry.2).toText
  book : e.bookId = bookId.toText
  index : e.index = entry.2
  chapter : (atPosition? chapters entry.1.1).bind (·.id) = some e.chapterId
  title : e.title = entry.1.2

theorem deriveChapter_ok_iff {bookId : Uuid} {level : Int} {html : String} {index : Nat}
    {c : Chapter} : deriveChapter bookId level html index = .ok c ↔
      (-0x80000000 ≤ level ∧ level ≤ Payload.maxLevel) ∧ c = .derived bookId html index := by
  simp only [deriveChapter, bind_ok_iff, mapError_ok_iff, Payload.compress_ok_iff]
  constructor
  · rintro ⟨p, ⟨inside, rfl⟩, eq⟩
    cases eq
    exact ⟨inside, rfl⟩
  · rintro ⟨inside, rfl⟩
    exact ⟨_, ⟨inside, rfl⟩, rfl⟩

theorem deriveTocEntry_ok_iff {bookId : Uuid} {chapters : List Chapter} {entry : Int × String}
    {index : Nat} {e : TocEntry} : deriveTocEntry bookId chapters entry index = .ok e ↔
      e.Derived bookId chapters (entry, index) := by
  unfold deriveTocEntry
  constructor
  · intro h
    split at h
    · rename_i chapterId found
      cases h
      exact ⟨rfl, rfl, rfl, found, rfl⟩
    · cases h
  · rintro ⟨id, book, position, chapter, title⟩
    dsimp only at id position chapter title
    rw [chapter]
    cases e
    simp_all

structure BookRecord.Derived (x : ExtractedBook) (digest : String) (root : Uuid)
    (r : BookRecord) : Prop where
  book : r.book = ⟨some (Identity.book root digest).toText, x.metadata.identifier,
    x.metadata.language, x.metadata.title, digest, x.metadata.creator, x.metadata.description,
    x.metadata.publisher⟩
  chapters : r.chapters =
    x.chapters.zipIdx.map fun (html, i) => .derived (Identity.book root digest) html i
  toc : List.Forall₂ (TocEntry.Derived (Identity.book root digest) r.chapters) x.toc.zipIdx r.toc

/-- What a record is made of, if one is made. -/
theorem derived_of_ok {x : ExtractedBook} {digest : String} {root : Uuid} {level : Int}
    {r : BookRecord} (h : BookRecord.derive x digest root level = .ok r) :
    r.Derived x digest root := by
  obtain ⟨chapters, hc, rest⟩ := bind_ok_iff.1 h
  obtain ⟨toc, ht, eq⟩ := bind_ok_iff.1 rest
  cases eq
  refine ⟨rfl, ?_, ?_⟩
  · exact mapM_ok_map (fun a c ok => (deriveChapter_ok_iff.1 ok).2) hc
  · exact (mapM_ok_iff.1 ht).imp fun a e ok => deriveTocEntry_ok_iff.1 ok

theorem atPosition?_of_inside {α : Type} {l : List α} {i : Int} (low : 0 ≤ i)
    (high : i < l.length) : ∃ a, l[i.toNat]? = some a ∧ atPosition? l i = some a := by
  have inside : i.toNat < l.length := by omega
  refine ⟨l[i.toNat], List.getElem?_eq_getElem inside, ?_⟩
  rw [atPosition?, if_pos low, List.getElem?_eq_getElem inside]

/-- A record can be made at every level of the codec if the table of contents leads to chapters
counted from the first. -/
theorem exists_derive {x : ExtractedBook} {level : Int} (digest : String) (root : Uuid)
    (inside : -0x80000000 ≤ level ∧ level ≤ Payload.maxLevel)
    (leads : ∀ entry ∈ x.toc, 0 ≤ entry.1 ∧ entry.1 < x.chapters.length) :
    ∃ r, BookRecord.derive x digest root level = .ok r := by
  obtain ⟨chapters, hc⟩ : ∃ cs, x.chapters.zipIdx.mapM
      (fun a => deriveChapter (Identity.book root digest) level a.1 a.2) = .ok cs :=
    mapM_exists fun a _ => ⟨_, deriveChapter_ok_iff.2 ⟨inside, rfl⟩⟩
  have rows := mapM_ok_map (fun a c ok => (deriveChapter_ok_iff.1 ok).2) hc
  obtain ⟨toc, ht⟩ : ∃ es, x.toc.zipIdx.mapM
      (fun a => deriveTocEntry (Identity.book root digest) chapters a.1 a.2) = .ok es := by
    refine mapM_exists ?_
    rintro ⟨entry, i⟩ mem
    obtain ⟨low, high⟩ := leads entry (List.fst_mem_of_mem_zipIdx mem)
    have length : chapters.length = x.chapters.length := by rw [rows]; simp
    obtain ⟨c, hc, found⟩ := atPosition?_of_inside low (by rw [length]; exact high)
    rw [rows] at hc
    obtain ⟨b, _, rfl⟩ := List.mem_map.1 (List.mem_of_getElem? hc)
    have chapterId : (atPosition? chapters entry.1).bind (·.id) =
        some (Identity.chapter (Identity.book root digest) b.2 (Bytes.ofText b.1)).toText := by
      rw [found]
      rfl
    dsimp only
    rw [deriveTocEntry, chapterId]
    exact ⟨_, rfl⟩
  exact ⟨_, bind_ok_iff.2 ⟨chapters, hc, bind_ok_iff.2 ⟨toc, ht, rfl⟩⟩⟩

/-! ## Shape -/

/-- The rows belong to the record's own book and are numbered from zero. -/
structure BookRecord.Shaped (r : BookRecord) (bookId : String) : Prop where
  book : r.book.id = some bookId
  chapterBook : ∀ c ∈ r.chapters, c.bookId = bookId
  chapterIndex : r.chapters.map (·.index) = (List.range r.chapters.length).map Int.ofNat
  tocBook : ∀ e ∈ r.toc, e.bookId = bookId
  tocIndex : r.toc.map (·.index) = (List.range r.toc.length).map Int.ofNat
  tocChapter : ∀ e ∈ r.toc, some e.chapterId ∈ r.chapters.map (·.id)

theorem mem_of_atPosition? {α : Type} {l : List α} {i : Int} {a : α}
    (h : atPosition? l i = some a) : a ∈ l := by
  unfold atPosition? at h
  split at h
  · exact List.mem_of_getElem? h
  split at h
  · exact List.mem_of_getElem? h
  · cases h

theorem zipIdx_positions {α : Type} (l : List α) :
    l.zipIdx.map (fun a => Int.ofNat a.2) = (List.range l.length).map Int.ofNat := by
  rw [List.range_eq_range', ← List.zipIdx_map_snd, List.map_map]
  rfl

/-- The rows of a derived record belong to its own book and are numbered from zero. -/
theorem BookRecord.Derived.shaped {x : ExtractedBook} {digest : String} {root : Uuid}
    {r : BookRecord} (h : r.Derived x digest root) :
    r.Shaped (Identity.book root digest).toText where
  book := by rw [h.book]
  chapterBook := by
    intro c hc
    rw [h.chapters] at hc
    obtain ⟨a, _, rfl⟩ := List.mem_map.1 hc
    rfl
  chapterIndex := by
    rw [h.chapters, List.map_map, List.length_map, List.length_zipIdx]
    exact zipIdx_positions x.chapters
  tocBook := by
    intro e he
    obtain ⟨i, hi, rfl⟩ := List.getElem_of_mem he
    exact (h.toc.get (by rw [h.toc.length_eq]; exact hi) hi).book
  tocIndex := by
    rw [← map_eq_of_forall₂ h.toc (fun _ _ d => d.index.symm), ← h.toc.length_eq,
      List.length_zipIdx]
    exact zipIdx_positions x.toc
  tocChapter := by
    intro e he
    obtain ⟨i, hi, rfl⟩ := List.getElem_of_mem he
    have chapter := (h.toc.get (by rw [h.toc.length_eq]; exact hi) hi).chapter
    obtain ⟨c, found, id⟩ := Option.bind_eq_some_iff.1 chapter
    exact List.mem_map.2 ⟨c, mem_of_atPosition? found, id⟩

end EpubLibrary
