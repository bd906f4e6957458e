import EpubLibrary.Catalog.Tables

/-!
# Importing a book

`Tables.importDraft` puts in a book with its chapters and its table of contents, all or nothing. It
does nothing if the book's content is there already. Before a row is put in, derived identifiers are
compared with those that are taken.
-/

namespace EpubLibrary.Tables

/-- Refuses an identifier that is taken. -/
def collide (taken : Bool) (c : Collision) : Except StoreError Unit :=
  if taken then .error (.collision c) else .ok ()

/-- Refuses identifiers of chapters that repeat or are taken. -/
def checkChapterIds (t : Tables) (chapters : List ChapterDraft) : Except StoreError Unit := do
  let ids := chapters.map (·.id)
  collide (ids.eraseDups.length ≠ ids.length) .repeatedChapter
  ids.forM fun id => do
    let id ← Cell.text? id
    collide (t.chapterById? id).isSome (.chapterId id)

/-- Is the content of a draft there? Refuses a draft with an identifier that other content has. -/
def checkIds (t : Tables) (r : RecordDraft) : Except StoreError Bool := do
  let hash ← Cell.text? r.book.contentHash
  match t.bookByHash? hash with
  | some stored => do
    collide (stored.id.map .text ≠ r.book.id) (.digest stored.contentHash stored.id r.book.id)
    pure true
  | none => do
    let id ← Cell.text? r.book.id
    collide (t.book? id).isSome (.bookId id)
    t.checkChapterIds r.chapters
    pure false

/-- Puts in every row of a draft: the book, then its chapters, then its table of contents. -/
def addRecord (t : Tables) (r : RecordDraft) : Except StoreError Tables := do
  let t ← t.addBook r.book
  let t ← r.chapters.foldlM addChapter t
  r.toc.foldlM addTocEntry t

/-- The tables with the rows of a draft, or nothing if its content is there already. -/
def importDraft (t : Tables) (r : RecordDraft) : Except StoreError (Option Tables) := do
  if ← t.checkIds r then pure none
  else some <$> t.addRecord r

end EpubLibrary.Tables
