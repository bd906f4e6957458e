import EpubLibrary.Proofs.Catalog.Fresh
import EpubLibrary.Proofs.Catalog.Lookup
import EpubLibrary.Proofs.Catalog.Reachable

/-!
# Stores that grow

`Store.plusAll` is a store with every row of some records; `Tables.Extends` relates tables to what
records of other books make of them.
-/

namespace EpubLibrary

namespace Tables

def plusAll (t : Tables) (rs : List BookRecord) : Tables := rs.foldl plus t

theorem plusAll_append (t : Tables) (rs qs : List BookRecord) :
    t.plusAll (rs ++ qs) = (t.plusAll rs).plusAll qs := List.foldl_append

theorem plusAll_eq (t : Tables) (rs : List BookRecord) : t.plusAll rs = { t with
    books := t.books ++ rs.map (·.book)
    chapters := t.chapters ++ rs.flatMap (·.chapters)
    toc := t.toc ++ rs.flatMap (·.toc) } := by
  induction rs generalizing t with
  | nil => simp [plusAll]
  | cons r rs ih =>
    rw [plusAll, List.foldl_cons, ← plusAll, ih]
    simp [plus, withBook, withChapters, withToc]

@[simp] theorem books_plusAll (t : Tables) (rs : List BookRecord) :
    (t.plusAll rs).books = t.books ++ rs.map (·.book) := by rw [plusAll_eq]

@[simp] theorem toc_plusAll (t : Tables) (rs : List BookRecord) :
    (t.plusAll rs).toc = t.toc ++ rs.flatMap (·.toc) := by rw [plusAll_eq]

@[simp] theorem chapters_plusAll (t : Tables) (rs : List BookRecord) :
    (t.plusAll rs).chapters = t.chapters ++ rs.flatMap (·.chapters) := by rw [plusAll_eq]

@[simp] theorem bookmarks_plusAll (t : Tables) (rs : List BookRecord) :
    (t.plusAll rs).bookmarks = t.bookmarks := by rw [plusAll_eq]

theorem mem_contentHashes_plusAll {t : Tables} {rs : List BookRecord} {d : String} :
    d ∈ (t.plusAll rs).contentHashes ↔ d ∈ t.contentHashes ∨ ∃ r ∈ rs, r.book.contentHash = d := by
  simp [List.mem_append]

theorem Holds.stored {t : Tables} {r : BookRecord} (h : t.Holds r.draft) :
    r.book.contentHash ∈ t.contentHashes := by
  obtain ⟨b, hb, same, _⟩ := h
  rw [mem_contentHashes, LooseText.text.inj (Option.some.inj same)]
  exact List.mem_map_of_mem hb

/-- A draft that collides goes on colliding, whatever is added. -/
theorem Collides.grow {t : Tables} {r : RecordDraft} (h : t.Collides r) (rs : List BookRecord) :
    (t.plusAll rs).Collides r := by
  cases h with
  | digest stored same other => exact .digest (by simp [stored]) same other
  | book stored derived same other => exact .book (by simp [stored]) derived same other
  | repeated h => exact .repeated h
  | chapter mem derived stored =>
    refine .chapter mem derived ?_
    rw [HasChapter, chapters_plusAll, List.map_append]
    exact List.mem_append_left _ stored

end Tables

structure BookRecord.Apart (r q : BookRecord) : Prop where
  digest : r.book.contentHash ≠ q.book.contentHash
  book : r.book.id ≠ q.book.id
  chapters : ∀ c ∈ r.chapters, c.id ∉ q.chapters.map (·.id)
  toc : ∀ e ∈ r.toc, e.id ∉ q.toc.map (·.id)

theorem BookRecord.Apart.symm {r q : BookRecord} (h : r.Apart q) : q.Apart r where
  digest := h.digest.symm
  book := h.book.symm
  chapters := by
    intro c hc taken
    obtain ⟨d, hd, same⟩ := List.mem_map.1 taken
    exact h.chapters d hd (same ▸ List.mem_map_of_mem hc)
  toc := by
    intro e he taken
    obtain ⟨d, hd, same⟩ := List.mem_map.1 taken
    exact h.toc d hd (same ▸ List.mem_map_of_mem he)

/-- Nothing of a record is taken by records that are apart from it. -/
theorem BookRecord.Fresh.plusAll {t : Tables} {r : BookRecord} {rs : List BookRecord}
    (h : r.Fresh t) (apart : ∀ q ∈ rs, r.Apart q) : r.Fresh (t.plusAll rs) where
  digest := by
    simp only [Tables.books_plusAll, List.map_append, List.map_map, List.mem_append, not_or]
    refine ⟨h.digest, fun mem => ?_⟩
    obtain ⟨q, hq, same⟩ := List.mem_map.1 mem
    exact (apart q hq).digest same.symm
  book := by
    simp only [Tables.books_plusAll, List.map_append, List.map_map, List.mem_append, not_or]
    refine ⟨h.book, fun mem => ?_⟩
    obtain ⟨q, hq, same⟩ := List.mem_map.1 mem
    exact (apart q hq).book same.symm
  chapters := h.chapters
  chaptersNew := by
    intro c hc
    simp only [Tables.chapters_plusAll, List.map_append, List.mem_append, not_or]
    refine ⟨h.chaptersNew c hc, fun mem => ?_⟩
    rw [List.map_flatMap] at mem
    obtain ⟨q, hq, taken⟩ := List.mem_flatMap.1 mem
    exact (apart q hq).chapters c hc taken
  toc := h.toc
  tocNew := by
    intro e he
    simp only [Tables.toc_plusAll, List.map_append, List.mem_append, not_or]
    refine ⟨h.tocNew e he, fun mem => ?_⟩
    rw [List.map_flatMap] at mem
    obtain ⟨q, hq, taken⟩ := List.mem_flatMap.1 mem
    exact (apart q hq).toc e he taken

/-! ## Rows that stay -/

namespace Tables

/-- Are all rows of the first tables in the second, and no new rows for the books of the first? -/
structure Extends (t t' : Tables) : Prop where
  books : t.books <+: t'.books
  chapters : t.chapters <+: t'.chapters
  chaptersOf : ∀ id, t.HasBook id →
    t'.chapters.filter (·.bookId = id) = t.chapters.filter (·.bookId = id)
  tocOf : ∀ id, t.HasBook id → t'.toc.filter (·.bookId = id) = t.toc.filter (·.bookId = id)

theorem HasBook.extend {t t' : Tables} {id : String} (h : t.HasBook id) (ext : t.Extends t') :
    t'.HasBook id := by
  obtain ⟨b, hb, own⟩ := List.mem_map.1 h
  exact List.mem_map.2 ⟨b, ext.books.subset hb, own⟩

/-- Tables that differ in their bookmarks alone. -/
theorem extends_of_eq {t t' : Tables} (books : t'.books = t.books)
    (chapters : t'.chapters = t.chapters) (toc : t'.toc = t.toc) : t.Extends t' where
  books := books ▸ List.prefix_rfl
  chapters := chapters ▸ List.prefix_rfl
  chaptersOf := fun id _ => by rw [chapters]
  tocOf := fun id _ => by rw [toc]

theorem Extends.trans {t u v : Tables} (h : t.Extends u) (h' : u.Extends v) : t.Extends v where
  books := h.books.trans h'.books
  chapters := h.chapters.trans h'.chapters
  chaptersOf := fun id has => (h'.chaptersOf id (has.extend h)).trans (h.chaptersOf id has)
  tocOf := fun id has => (h'.tocOf id (has.extend h)).trans (h.tocOf id has)

theorem filter_others {α : Type} {book : α → String} {id : String} {old new : List α}
    (others : ∀ a ∈ new, book a ≠ id) :
    (old ++ new).filter (fun a => book a = id) = old.filter (fun a => book a = id) := by
  have none : new.filter (fun a => book a = id) = [] :=
    List.filter_eq_nil_iff.2 fun a ha => by simpa using others a ha
  rw [List.filter_append, none, List.append_nil]

/-- Records of other books add no rows to a book that is there. -/
theorem extends_plusAll {t : Tables} {rs : List BookRecord}
    (shaped : ∀ r ∈ rs, ∃ bookId, r.Shaped bookId) (unique : (t.plusAll rs).Unique) :
    t.Extends (t.plusAll rs) := by
  have other {r : BookRecord} {bookId id : String} (mem : r ∈ rs) (shape : r.Shaped bookId)
      (has : t.HasBook id) : bookId ≠ id := by
    rintro rfl
    have ids := unique.bookIds
    rw [books_plusAll, List.filterMap_append, List.nodup_append] at ids
    have old : bookId ∈ t.books.filterMap (·.id) := by
      obtain ⟨b, hb, own⟩ := List.mem_map.1 has
      exact List.mem_filterMap.2 ⟨b, hb, own⟩
    have new : bookId ∈ (rs.map (·.book)).filterMap (·.id) :=
      List.mem_filterMap.2 ⟨r.book, List.mem_map_of_mem mem, shape.book⟩
    exact ids.2.2 _ old _ new rfl
  refine ⟨?_, ?_, fun id has => ?_, fun id has => ?_⟩
  · rw [books_plusAll]
    exact List.prefix_append _ _
  · rw [chapters_plusAll]
    exact List.prefix_append _ _
  · rw [chapters_plusAll]
    refine filter_others fun c hc => ?_
    obtain ⟨r, hr, mem⟩ := List.mem_flatMap.1 hc
    obtain ⟨bookId, shape⟩ := shaped r hr
    rw [shape.chapterBook c mem]
    exact other hr shape has
  · rw [toc_plusAll]
    refine filter_others fun e he => ?_
    obtain ⟨r, hr, mem⟩ := List.mem_flatMap.1 he
    obtain ⟨bookId, shape⟩ := shaped r hr
    rw [shape.tocBook e mem]
    exact other hr shape has

end Tables

namespace Store

def plusAll (s : Store) (rs : List BookRecord) : Store := { s with tables := s.tables.plusAll rs }

theorem plusAll_append (s : Store) (rs qs : List BookRecord) :
    s.plusAll (rs ++ qs) = (s.plusAll rs).plusAll qs := by
  simp only [plusAll, Tables.plusAll_append]

/-- An import that adds nothing leaves the store as it is. -/
theorem importBook_keeps (s : Store) (r : BookRecord) (h : (s.importBook r).1 ≠ .ok true) :
    (s.importBook r).2 = s := by
  unfold importBook importDraft at *
  split
  · rfl
  split
  · rfl
  split <;> simp_all

/-- Only an open store without a transaction has an answer about a record. -/
theorem importBook_answers {s : Store} {r : BookRecord} {answer : Except StoreError Bool}
    (h : (s.importBook r).1 = answer) (known : answer ≠ .error .closed)
    (idle : answer ≠ .error .nested) : s.isOpen = true ∧ s.isPending = false := by
  unfold importBook importDraft at h
  split at h
  · exact absurd h.symm known
  split at h
  · exact absurd h.symm idle
  · simp_all

/-- An import that answers yes has added the record, and nothing else. -/
theorem importBook_true {s s' : Store} {r : BookRecord} (sound : s.Sound)
    (h : s.importBook r = (.ok true, s')) : s'.Sound ∧ s' = s.plusAll [r] := by
  obtain ⟨isOpen, idle⟩ := importBook_answers (congrArg Prod.fst h) (by simp) (by simp)
  rw [importBook, importDraft_idle isOpen idle] at h
  cases added : s.tables.importDraft r.draft with
  | error e => simp [added] at h
  | ok answer =>
    cases answer with
    | none => simp [added] at h
    | some t =>
      obtain ⟨_, _, rows, eq, admits, rfl⟩ := Tables.importDraft_adds sound.valid added
      obtain rfl := BookRecord.draft_injective eq
      rw [added] at h
      cases h
      exact ⟨⟨isOpen, admits.valid⟩, rfl⟩

/-- An import leaves the store as it is, or adds the rows of the record within the rules. -/
theorem importBook_cases {s : Store} (sound : s.Sound) (r : BookRecord) :
    (s.importBook r).2 = s ∨ (s.importBook r).2 = s.plusAll [r] ∧ (s.plusAll [r]).Sound := by
  by_cases added : (s.importBook r).1 = .ok true
  · obtain ⟨grown, eq⟩ := importBook_true sound (Prod.ext added rfl)
    rw [eq] at grown
    exact .inr ⟨eq, grown⟩
  · exact .inl (s.importBook_keeps r added)

/-- An import that answers no has found the content under the same identifier. -/
theorem importBook_false {s : Store} {r : BookRecord}
    (h : s.importBook r = (.ok false, s)) : s.tables.Holds r.draft := by
  obtain ⟨isOpen, idle⟩ := importBook_answers (congrArg Prod.fst h) (by simp) (by simp)
  rw [importBook, importDraft_idle isOpen idle] at h
  by_contra new
  by_cases collides : s.tables.Collides r.draft
  · obtain ⟨c, hc⟩ := Tables.importDraft_collides r.clean_draft new collides
    simp [hc] at h
  · rw [Tables.importDraft_new r.clean_draft new collides] at h
    cases added : s.tables.addRecord r.draft <;> simp [added] at h

theorem importBook_collision {s : Store} {r : BookRecord} {c : Collision} (sound : s.Sound)
    (h : s.importBook r = (.error (.collision c), s)) :
    s.isPending = false ∧ s.tables.Collides r.draft := by
  obtain ⟨isOpen, idle⟩ := importBook_answers (congrArg Prod.fst h) (by simp) (by simp)
  rw [importBook, importDraft_idle isOpen idle] at h
  refine ⟨idle, ?_⟩
  by_contra free
  by_cases held : s.tables.Holds r.draft
  · simp [Tables.importDraft_held sound.valid held] at h
  · rw [Tables.importDraft_new r.clean_draft held free] at h
    cases added : s.tables.addRecord r.draft with
    | ok t => simp [added] at h
    | error e =>
      rcases (Tables.failsIn_addRecord _ _ e added).of_clean r.clean_draft with rfl | ⟨v, rfl⟩ <;>
        simp [added] at h

/-- A record of which nothing is taken is added. -/
theorem importBook_fresh {s : Store} {r : BookRecord} {bookId : String} (sound : s.Sound)
    (idle : s.isPending = false) (shape : r.Shaped bookId) (fresh : r.Fresh s.tables)
    (countable : r.Countable) : s.importBook r = (.ok true, s.plusAll [r]) := by
  rw [importBook, importDraft_idle sound.isOpen idle,
    importDraft_fresh sound.valid shape fresh countable]
  rfl

/-- A record that collides is refused unless it is held. -/
theorem importBook_collides {s : Store} {r : BookRecord} (sound : s.Sound)
    (idle : s.isPending = false) (new : ¬ s.tables.Holds r.draft)
    (collides : s.tables.Collides r.draft) :
    ∃ c, s.importBook r = (.error (.collision c), s) := by
  obtain ⟨c, hc⟩ := Tables.importDraft_collides r.clean_draft new collides
  rw [importBook, importDraft_idle sound.isOpen idle, hc]
  exact ⟨c, rfl⟩

end Store
end EpubLibrary
