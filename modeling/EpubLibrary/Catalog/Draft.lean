import EpubLibrary.Catalog.Error
import EpubLibrary.Catalog.Row

/-!
# Drafts

A `RecordDraft` is a record as it is handed in: required cells may be missing, texts may be loose
and integers may be too large. `row` gives the row of a draft, or why there is none. Cells are read
in the order in which the rows are written, before any of them is required.
-/

namespace EpubLibrary

namespace Cell

/-- Can a cell hold the integer? -/
def fits (n : Int) : Bool := -0x8000000000000000 ≤ n && n < 0x8000000000000000

def integer (n : Int) : Except StoreError Int := if fits n then .ok n else .error .tooLarge

def text (x : LooseText) : Except StoreError String := x.strict.mapError .unencodable

/-- A text that may be missing. -/
def text? : Option LooseText → Except StoreError (Option String)
  | some x => some <$> text x
  | none => .ok none

/-- A cell that must not be missing. -/
def required {α : Type} (column : String) : Option α → Except StoreError α
  | some a => .ok a
  | none => .error (.violation (.missing column))

end Cell

structure BookDraft where
  id : Option LooseText
  identifier : Option LooseText
  language : Option LooseText
  title : Option LooseText
  contentHash : Option LooseText
  creator : Option LooseText
  description : Option LooseText
  publisher : Option LooseText

structure ChapterDraft where
  id : Option LooseText
  bookId : Option LooseText
  index : Int
  content : Option Bytes

structure TocDraft where
  id : Option LooseText
  bookId : Option LooseText
  index : Int
  chapterId : Option LooseText
  title : Option LooseText

structure RecordDraft where
  book : BookDraft
  chapters : List ChapterDraft
  toc : List TocDraft

def BookDraft.row (b : BookDraft) : Except StoreError Book := do
  let id ← Cell.text? b.id
  let identifier ← Cell.text? b.identifier
  let language ← Cell.text? b.language
  let title ← Cell.text? b.title
  let creator ← Cell.text? b.creator
  let description ← Cell.text? b.description
  let publisher ← Cell.text? b.publisher
  let contentHash ← Cell.text? b.contentHash
  let identifier ← Cell.required "books.identifier" identifier
  let language ← Cell.required "books.language" language
  let title ← Cell.required "books.title" title
  let contentHash ← Cell.required "books.content_hash" contentHash
  pure ⟨id, identifier, language, title, contentHash, creator, description, publisher⟩

def ChapterDraft.row (c : ChapterDraft) : Except StoreError Chapter := do
  let id ← Cell.text? c.id
  let bookId ← Cell.text? c.bookId
  let index ← Cell.integer c.index
  let bookId ← Cell.required "chapters.book_id" bookId
  let content ← Cell.required "chapters.content" c.content
  pure ⟨id, bookId, index, content⟩

def TocDraft.row (t : TocDraft) : Except StoreError TocEntry := do
  let id ← Cell.text? t.id
  let bookId ← Cell.text? t.bookId
  let index ← Cell.integer t.index
  let chapterId ← Cell.text? t.chapterId
  let title ← Cell.text? t.title
  let bookId ← Cell.required "table_of_contents.book_id" bookId
  let chapterId ← Cell.required "table_of_contents.chapter_id" chapterId
  let title ← Cell.required "table_of_contents.title" title
  pure ⟨id, bookId, index, chapterId, title⟩

/-! ## Drafts of rows -/

def Book.draft (b : Book) : BookDraft where
  id := b.id.map .text
  identifier := some (.text b.identifier)
  language := some (.text b.language)
  title := some (.text b.title)
  contentHash := some (.text b.contentHash)
  creator := b.creator.map .text
  description := b.description.map .text
  publisher := b.publisher.map .text

def Chapter.draft (c : Chapter) : ChapterDraft :=
  ⟨c.id.map .text, some (.text c.bookId), c.index, some c.content⟩

def TocEntry.draft (t : TocEntry) : TocDraft :=
  ⟨t.id.map .text, some (.text t.bookId), t.index, some (.text t.chapterId), some (.text t.title)⟩

def BookRecord.draft (r : BookRecord) : RecordDraft :=
  ⟨r.book.draft, r.chapters.map (·.draft), r.toc.map (·.draft)⟩

end EpubLibrary
