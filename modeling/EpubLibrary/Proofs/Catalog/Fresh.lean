import EpubLibrary.Proofs.Catalog.Derive

namespace EpubLibrary

/-- Nothing of the record is taken: its digest and identifiers are not in the tables, and no two of
its chapters or entries have the same identifier. -/
structure BookRecord.Fresh (r : BookRecord) (t : Tables) : Prop where
  digest : r.book.contentHash ∉ t.books.map (·.contentHash)
  book : r.book.id ∉ t.books.map (·.id)
  chapters : (r.chapters.map (·.id)).Nodup
  chaptersNew : ∀ c ∈ r.chapters, c.id ∉ t.chapters.map (·.id)
  toc : (r.toc.map (·.id)).Nodup
  tocNew : ∀ e ∈ r.toc, e.id ∉ t.toc.map (·.id)

/-- As many chapters and entries as a cell can number. No list of a running program has more. -/
structure BookRecord.Countable (r : BookRecord) : Prop where
  chapters : r.chapters.length ≤ 0x8000000000000000
  toc : r.toc.length ≤ 0x8000000000000000

theorem fits_of_positions {α : Type} {l : List α} {index : α → Int}
    (numbered : l.map index = (List.range l.length).map Int.ofNat)
    (short : l.length ≤ 0x8000000000000000) : ∀ a ∈ l, Cell.fits (index a) = true := by
  intro a ha
  have mem : index a ∈ (List.range l.length).map Int.ofNat := by
    rw [← numbered]
    exact List.mem_map_of_mem ha
  obtain ⟨i, hi, eq⟩ := List.mem_map.1 mem
  have below := List.mem_range.1 hi
  have eq : (i : Int) = index a := eq
  simp only [Cell.fits, Bool.and_eq_true, decide_eq_true_eq]
  omega

theorem nodup_places {α : Type} {l : List α} {book : α → String} {index : α → Int} {id : String}
    (own : ∀ a ∈ l, book a = id)
    (numbered : l.map index = (List.range l.length).map Int.ofNat) :
    (l.map fun a => (book a, index a)).Nodup := by
  have indices : (l.map index).Nodup := by
    rw [numbered]
    exact List.nodup_range.map fun _ _ h => Int.ofNat.inj h
  have same : (l.map fun a => (book a, index a)) = (l.map index).map fun i => (id, i) := by
    rw [List.map_map]
    exact List.map_congr_left fun a ha => by rw [own a ha]; rfl
  rw [same]
  exact indices.map fun _ _ h => (Prod.mk.inj h).2

theorem nodup_filterMap_of_map {α β : Type} {f : α → Option β} {l : List α}
    (h : (l.map f).Nodup) : (l.filterMap f).Nodup := by
  have own := h.filterMap (f := id) fun a b c ha hb => ha.trans hb.symm
  rwa [List.filterMap_map] at own

theorem nodup_ids_append {α : Type} {id : α → Option String} {l m : List α}
    (old : (l.filterMap id).Nodup) (new : (m.map id).Nodup) (apart : ∀ a ∈ m, id a ∉ l.map id) :
    ((l ++ m).filterMap id).Nodup := by
  refine Tables.nodup_filterMap_append.2 ⟨old, nodup_filterMap_of_map new, fun a ha b own => ?_⟩
  rw [← own]
  exact apart a ha

section
variable {t : Tables} {r : BookRecord} {bookId : String}

theorem hasBook_plus (shape : r.Shaped bookId) : (t.withBook r.book).HasBook bookId := by
  rw [Tables.HasBook, Tables.withBook, List.map_append]
  exact List.mem_append_right _ (List.mem_singleton.2 shape.book.symm)

/-- No row of valid tables belongs to a book that is not there. -/
theorem noBook_of_fresh (shape : r.Shaped bookId) (fresh : r.Fresh t) : ¬ t.HasBook bookId := by
  have new := fresh.book
  rw [shape.book] at new
  exact new

/-- Nothing repeats once the rows of a fresh record are there. -/
theorem unique_plus (h : t.Valid) (shape : r.Shaped bookId) (fresh : r.Fresh t) :
    (t.plus r).Unique := by
  have noBook := noBook_of_fresh shape fresh
  refine { bookIds := ?_, digests := ?_, chapterIds := ?_, chapterPlaces := ?_, tocIds := ?_,
           tocPlaces := ?_, bookmarkBooks := h.bookmarkBooks }
  · refine (Tables.nodup_filterMap_concat h.bookIds r.book).2 fun i hi => ?_
    rw [← hi]
    exact fresh.book
  · exact (Tables.nodup_map_concat h.digests r.book).2 fresh.digest
  · exact nodup_ids_append h.chapterIds fresh.chapters fresh.chaptersNew
  · have places := nodup_places shape.chapterBook shape.chapterIndex
    refine Tables.nodup_map_append.2 ⟨h.chapterPlaces, places, fun c hc mem => ?_⟩
    obtain ⟨d, hd, same⟩ := List.mem_map.1 mem
    have book : d.bookId = bookId := (Prod.mk.inj same).1.trans (shape.chapterBook c hc)
    exact noBook (book ▸ h.chapterBook d hd)
  · exact nodup_ids_append h.tocIds fresh.toc fresh.tocNew
  · have places := nodup_places shape.tocBook shape.tocIndex
    refine Tables.nodup_map_append.2 ⟨h.tocPlaces, places, fun e he mem => ?_⟩
    obtain ⟨d, hd, same⟩ := List.mem_map.1 mem
    have book : d.bookId = bookId := (Prod.mk.inj same).1.trans (shape.tocBook e he)
    exact noBook (book ▸ h.tocBook d hd)

/-- The rows of a record refer to its own book and to its own chapters only. -/
theorem closed_plus (h : t.Valid) (shape : r.Shaped bookId) : (t.plus r).Closed := by
  have book := hasBook_plus (t := t) shape
  refine ((h.toClosed.withBook r.book).withChapters fun c hc => ?_).withToc
    (fun e he => ?_) fun e he => ?_
  · rw [shape.chapterBook c hc]
    exact book
  · rw [shape.tocBook e he]
    exact book
  · rw [Tables.HasChapter, Tables.withChapters, List.map_append]
    exact List.mem_append_right _ (shape.tocChapter e he)

/-- A shaped record of which nothing is taken can be put in as a whole. -/
theorem admits_of_fresh (h : t.Valid) (shape : r.Shaped bookId) (fresh : r.Fresh t)
    (countable : r.Countable) : t.Admits r where
  chaptersFit := fits_of_positions shape.chapterIndex countable.chapters
  tocFits := fits_of_positions shape.tocIndex countable.toc
  valid := ⟨unique_plus h shape fresh, closed_plus h shape⟩

theorem not_holds_of_fresh (fresh : r.Fresh t) : ¬ t.Holds r.draft := by
  rintro ⟨b, hb, same, _⟩
  exact fresh.digest (List.mem_map.2 ⟨b, hb, (LooseText.text.inj (Option.some.inj same)).symm⟩)

theorem not_collides_of_fresh (fresh : r.Fresh t) : ¬ t.Collides r.draft := by
  intro collides
  cases collides with
  | digest stored same =>
    exact fresh.digest
      (List.mem_map.2 ⟨_, stored, (LooseText.text.inj (Option.some.inj same)).symm⟩)
  | book stored derived same =>
    have derived := map_text_eq_some.1 derived
    exact fresh.book (List.mem_map.2 ⟨_, stored, same.trans derived.symm⟩)
  | repeated h =>
    refine h ?_
    have ids : r.draft.chapters.map (·.id) = (r.chapters.map (·.id)).map (Option.map .text) := by
      simp [BookRecord.draft, Chapter.draft, Function.comp_def]
    rw [ids]
    exact fresh.chapters.map map_text_injective
  | chapter mem derived stored =>
    obtain ⟨c, hc, rfl⟩ := List.mem_map.1 mem
    refine fresh.chaptersNew c hc ?_
    rw [map_text_eq_some.1 derived]
    exact stored

/-- The import of a fresh record adds it. -/
theorem importDraft_fresh (h : t.Valid) (shape : r.Shaped bookId) (fresh : r.Fresh t)
    (countable : r.Countable) : t.importDraft r.draft = .ok (some (t.plus r)) := by
  rw [Tables.importDraft_new r.clean_draft (not_holds_of_fresh fresh) (not_collides_of_fresh fresh),
    (Tables.addRecord_ok_iff h).2 ⟨r, rfl, admits_of_fresh h shape fresh countable, rfl⟩]
  rfl

end

end EpubLibrary
