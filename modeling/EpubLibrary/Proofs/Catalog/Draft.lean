import EpubLibrary.Catalog.Draft
import EpubLibrary.Proofs.Results
import Mathlib.Data.Option.Basic
import Mathlib.Data.List.Basic

namespace EpubLibrary

theorem map_text_injective : Function.Injective (Option.map LooseText.text) :=
  Option.map_injective fun _ _ h => LooseText.text.inj h

theorem map_text_eq_some {x : Option String} {s : String} :
    x.map LooseText.text = some (.text s) ↔ x = some s := by
  cases x <;> simp

namespace Cell

theorem text_ok_iff {x : LooseText} {s : String} : text x = .ok s ↔ x = s := by
  rw [text, mapError_ok_iff, LooseText.strict_ok_iff]

@[simp] theorem text_text (s : String) : text (.text s) = .ok s := rfl

theorem text?_ok_iff {x : Option LooseText} {y : Option String} :
    text? x = .ok y ↔ x = y.map .text := by
  cases x with
  | none => cases y <;> simp [text?]
  | some x =>
    simp only [text?, map_ok_iff, text_ok_iff]
    cases y <;> simp [eq_comm]

/-- A cell of text fails for a loose text alone. -/
theorem text?_error {x : Option LooseText} {e : StoreError} (h : text? x = .error e) :
    (∃ u, e = .unencodable u) ∧ ¬ ∃ s : Option String, x = s.map .text := by
  constructor
  · cases x with
    | none => cases h
    | some x => cases x <;> cases h; exact ⟨_, rfl⟩
  · rintro ⟨s, rfl⟩
    rw [text?_ok_iff.2 rfl] at h
    cases h

theorem integer_ok_iff {n m : Int} : integer n = .ok m ↔ n = m ∧ fits m = true := by
  unfold integer
  split <;> simp <;> grind

theorem required_ok_iff {α : Type} {column : String} {x : Option α} {a : α} :
    required column x = .ok a ↔ x = some a := by
  cases x <;> simp [required]

end Cell

/-! ## Rows -/

/-- A draft has a row exactly if it is the draft of that row. -/
theorem BookDraft.row_ok_iff {draft : BookDraft} {b : Book} :
    draft.row = .ok b ↔ draft = b.draft := by
  obtain ⟨id, identifier, language, title, contentHash, creator, description, publisher⟩ := draft
  simp only [row, bind_ok_iff, Cell.text?_ok_iff, Cell.required_ok_iff]
  constructor
  · rintro ⟨_, rfl, _, rfl, _, rfl, _, rfl, _, rfl, _, rfl, _, rfl, _, rfl, _, rfl, _, rfl, _, rfl,
      _, rfl, eq⟩
    cases eq
    rfl
  · intro same
    cases same
    exact ⟨b.id, rfl, b.identifier, rfl, b.language, rfl, b.title, rfl, b.creator, rfl,
      b.description, rfl, b.publisher, rfl, b.contentHash, rfl, _, rfl, _, rfl, _, rfl, _, rfl, rfl⟩

theorem ChapterDraft.row_ok_iff {draft : ChapterDraft} {c : Chapter} :
    draft.row = .ok c ↔ draft = c.draft ∧ Cell.fits c.index = true := by
  obtain ⟨id, bookId, index, content⟩ := draft
  simp only [row, bind_ok_iff, Cell.text?_ok_iff, Cell.integer_ok_iff, Cell.required_ok_iff]
  constructor
  · rintro ⟨_, rfl, _, rfl, _, ⟨rfl, fits⟩, _, rfl, _, rfl, eq⟩
    cases eq
    exact ⟨rfl, fits⟩
  · rintro ⟨same, fits⟩
    cases same
    exact ⟨c.id, rfl, c.bookId, rfl, _, ⟨rfl, fits⟩, _, rfl, _, rfl, rfl⟩

theorem TocDraft.row_ok_iff {draft : TocDraft} {e : TocEntry} :
    draft.row = .ok e ↔ draft = e.draft ∧ Cell.fits e.index = true := by
  obtain ⟨id, bookId, index, chapterId, title⟩ := draft
  simp only [row, bind_ok_iff, Cell.text?_ok_iff, Cell.integer_ok_iff, Cell.required_ok_iff]
  constructor
  · rintro ⟨_, rfl, _, rfl, _, ⟨rfl, fits⟩, _, rfl, _, rfl, _, rfl, _, rfl, _, rfl, eq⟩
    cases eq
    exact ⟨rfl, fits⟩
  · rintro ⟨same, fits⟩
    cases same
    exact ⟨e.id, rfl, e.bookId, rfl, _, ⟨rfl, fits⟩, e.chapterId, rfl, e.title, rfl, _, rfl, _, rfl,
      _, rfl, rfl⟩

/-! A record can be told from its draft. -/

theorem Book.draft_injective : Function.Injective Book.draft := by
  intro a b h
  have row := BookDraft.row_ok_iff.2 h
  rw [BookDraft.row_ok_iff.2 rfl] at row
  exact Except.ok.inj row

theorem Chapter.draft_injective : Function.Injective Chapter.draft := by
  rintro ⟨id, bookId, index, content⟩ ⟨id', bookId', index', content'⟩ h
  obtain ⟨ids, books, rfl, contents⟩ := ChapterDraft.mk.inj h
  obtain rfl := map_text_injective ids
  cases books
  cases contents
  rfl

theorem TocEntry.draft_injective : Function.Injective TocEntry.draft := by
  rintro ⟨id, bookId, index, chapterId, title⟩ ⟨id', bookId', index', chapterId', title'⟩ h
  obtain ⟨ids, books, rfl, chapters, titles⟩ := TocDraft.mk.inj h
  obtain rfl := map_text_injective ids
  cases books
  cases chapters
  cases titles
  rfl

theorem BookRecord.draft_injective : Function.Injective BookRecord.draft := by
  rintro ⟨book, chapters, toc⟩ ⟨book', chapters', toc'⟩ h
  obtain ⟨books, chapters, toc⟩ := RecordDraft.mk.inj h
  obtain rfl := Book.draft_injective books
  obtain rfl := Chapter.draft_injective.list_map chapters
  obtain rfl := TocEntry.draft_injective.list_map toc
  rfl

/-! ## Texts -/

def BookDraft.cells (b : BookDraft) : List (Option LooseText) :=
  [b.id, b.identifier, b.language, b.title, b.contentHash, b.creator, b.description, b.publisher]

def ChapterDraft.cells (c : ChapterDraft) : List (Option LooseText) := [c.id, c.bookId]

def TocDraft.cells (t : TocDraft) : List (Option LooseText) :=
  [t.id, t.bookId, t.chapterId, t.title]

def RecordDraft.cells (r : RecordDraft) : List (Option LooseText) :=
  r.book.cells ++ (r.chapters.flatMap (·.cells) ++ r.toc.flatMap (·.cells))

/-- No text of the draft holds a surrogate that stands alone. -/
def RecordDraft.Clean (r : RecordDraft) : Prop :=
  ∀ x ∈ r.cells, ∃ s : Option String, x = s.map .text

/-- Rows hold plain texts, so their drafts are clean. -/
theorem BookRecord.clean_draft (r : BookRecord) : r.draft.Clean := by
  intro x hx
  simp only [RecordDraft.cells, BookRecord.draft, List.flatMap_map, List.mem_append,
    List.mem_flatMap] at hx
  rcases hx with book | ⟨c, _, chapter⟩ | ⟨e, _, entry⟩
  · simp only [BookDraft.cells, Book.draft, List.mem_cons, List.not_mem_nil, or_false] at book
    rcases book with rfl | rfl | rfl | rfl | rfl | rfl | rfl | rfl <;>
      first | exact ⟨_, rfl⟩ | exact ⟨some _, rfl⟩
  · simp only [ChapterDraft.cells, Chapter.draft, List.mem_cons, List.not_mem_nil,
      or_false] at chapter
    rcases chapter with rfl | rfl
    · exact ⟨c.id, rfl⟩
    · exact ⟨some c.bookId, rfl⟩
  · simp only [TocDraft.cells, TocEntry.draft, List.mem_cons, List.not_mem_nil, or_false] at entry
    rcases entry with rfl | rfl | rfl | rfl <;> first | exact ⟨e.id, rfl⟩ | exact ⟨some _, rfl⟩

end EpubLibrary
