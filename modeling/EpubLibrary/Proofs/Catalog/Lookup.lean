import EpubLibrary.Proofs.Catalog.Valid

namespace EpubLibrary.Tables

/-- What is the only one is found, wherever it stands. -/
theorem find?_iff_of_unique {α : Type} {p : α → Bool} {l : List α} {a : α}
    (unique : ∀ b ∈ l, ∀ c ∈ l, p b = true → p c = true → b = c) :
    l.find? p = some a ↔ a ∈ l ∧ p a = true := by
  constructor
  · intro found
    exact ⟨List.mem_of_find?_eq_some found, List.find?_some found⟩
  · rintro ⟨mem, holds⟩
    cases found : l.find? p with
    | none => exact absurd holds (List.find?_eq_none.1 found a mem)
    | some b =>
      rw [unique b (List.mem_of_find?_eq_some found) a mem (List.find?_some found) holds]

variable {t : Tables}

theorem names_some {id : String} {own : Option String} :
    names (some id) own = true ↔ own = some id := by
  simp [names]

/-- Valid tables give exactly the row that is asked for, since no other has its identifier. -/
theorem Valid.book?_iff (h : t.Valid) {id : String} {b : Book} :
    t.book? (some id) = some b ↔ b ∈ t.books ∧ b.id = some id := by
  rw [book?, find?_iff_of_unique, names_some]
  intro b hb c hc own own'
  exact eq_of_nodup_filterMap h.bookIds hb hc (names_some.1 own) (names_some.1 own')

theorem Valid.bookByHash?_iff (h : t.Valid) {hash : String} {b : Book} :
    t.bookByHash? (some hash) = some b ↔ b ∈ t.books ∧ b.contentHash = hash := by
  rw [bookByHash?, find?_iff_of_unique, names_some, Option.some.injEq]
  intro b hb c hc own own'
  rw [names_some, Option.some.injEq] at own own'
  exact List.inj_on_of_nodup_map h.digests hb hc (own.trans own'.symm)

theorem Valid.chapterById?_iff (h : t.Valid) {id : String} {c : Chapter} :
    t.chapterById? (some id) = some c ↔ c ∈ t.chapters ∧ c.id = some id := by
  rw [chapterById?, find?_iff_of_unique, names_some]
  intro b hb c hc own own'
  exact eq_of_nodup_filterMap h.chapterIds hb hc (names_some.1 own) (names_some.1 own')

/-- The chapter at a place of a book is the only one there. -/
theorem Valid.chapter?_iff (h : t.Valid) {bookId : String} {index : Int} {c : Chapter} :
    t.chapter? bookId index = some c ↔ c ∈ t.chapters ∧ c.bookId = bookId ∧ c.index = index := by
  rw [chapter?, find?_iff_of_unique, Bool.and_eq_true, decide_eq_true_eq, decide_eq_true_eq]
  intro b hb c hc place place'
  rw [Bool.and_eq_true, decide_eq_true_eq, decide_eq_true_eq] at place place'
  refine List.inj_on_of_nodup_map h.chapterPlaces hb hc (Prod.ext ?_ ?_)
  · exact place.1.trans place'.1.symm
  · exact place.2.trans place'.2.symm

end EpubLibrary.Tables
