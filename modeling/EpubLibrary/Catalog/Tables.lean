import EpubLibrary.Catalog.DigestSet
import EpubLibrary.Catalog.Draft

/-!
# Tables of the library

`Tables` holds the rows in the order in which they were put in. A row is put in unless its draft has
none, it repeats what must not repeat, or it refers to a row that is not there; the rules are
checked in this order.
-/

namespace EpubLibrary

structure Tables where
  books : List Book
  chapters : List Chapter
  toc : List TocEntry
  bookmarks : List Bookmark
  /-- the last identifier that a bookmark was given; none is given twice -/
  lastBookmarkId : Nat
  deriving DecidableEq

/-- How many rows each table holds. -/
structure RowCounts where
  books : Nat
  chapters : Nat
  toc : Nat
  bookmarks : Nat
  deriving DecidableEq

namespace Tables

def empty : Tables := ⟨[], [], [], [], 0⟩

/-! ## Looking up -/

/-- Does an identifier name a row? A missing one names none. -/
def names (id own : Option String) : Bool := id.isSome && own = id

def book? (t : Tables) (id : Option String) : Option Book := t.books.find? (names id ·.id)

def bookByHash? (t : Tables) (hash : Option String) : Option Book :=
  t.books.find? (names hash <| some ·.contentHash)

def chapterById? (t : Tables) (id : Option String) : Option Chapter :=
  t.chapters.find? (names id ·.id)

def chapter? (t : Tables) (bookId : String) (index : Int) : Option Chapter :=
  t.chapters.find? fun c => c.bookId = bookId && c.index = index

def bookmark? (t : Tables) (bookId : String) : Option Bookmark :=
  t.bookmarks.find? (·.bookId = bookId)

/-- The books in the order of their titles. -/
def listBooks (t : Tables) : List Book :=
  t.books.mergeSort fun a b =>
    a.title < b.title || (a.title = b.title && a.id.getD "" ≤ b.id.getD "")

def contentHashes (t : Tables) : DigestSet := .ofList (t.books.map (·.contentHash))

/-- The chapters of a book in their order. -/
def listChapters (t : Tables) (bookId : String) : List Chapter :=
  (t.chapters.filter (·.bookId = bookId)).mergeSort fun a b => a.index ≤ b.index

/-- The table of contents of a book in its order. -/
def tocOf (t : Tables) (bookId : String) : List TocEntry :=
  (t.toc.filter (·.bookId = bookId)).mergeSort fun a b => a.index ≤ b.index

/-- The bookmarks, latest first. -/
def listBookmarks (t : Tables) : List Bookmark :=
  t.bookmarks.mergeSort fun a b => b.createdAt.le a.createdAt

def counts (t : Tables) : RowCounts :=
  ⟨t.books.length, t.chapters.length, t.toc.length, t.bookmarks.length⟩

/-! ## Putting in -/

/-- Refuses a row if it breaks a rule. -/
def refuse (broken : Bool) (v : Violation) : Except StoreError Unit :=
  if broken then .error (.violation v) else .ok ()

def addBook (t : Tables) (draft : BookDraft) : Except StoreError Tables := do
  let b ← draft.row
  refuse (t.bookByHash? (some b.contentHash)).isSome (.repeated "books.content_hash")
  refuse (t.book? b.id).isSome (.repeated "books.id")
  pure { t with books := t.books ++ [b] }

def addChapter (t : Tables) (draft : ChapterDraft) : Except StoreError Tables := do
  let c ← draft.row
  refuse (t.chapter? c.bookId c.index).isSome (.repeated "chapters.book_id, chapters.index")
  refuse (t.chapterById? c.id).isSome (.repeated "chapters.id")
  refuse (t.book? (some c.bookId)).isNone .dangling
  pure { t with chapters := t.chapters ++ [c] }

def addTocEntry (t : Tables) (draft : TocDraft) : Except StoreError Tables := do
  let e ← draft.row
  refuse (t.toc.any fun f => f.bookId = e.bookId && f.index = e.index)
    (.repeated "table_of_contents.book_id, table_of_contents.index")
  refuse (t.toc.any (names e.id ·.id)) (.repeated "table_of_contents.id")
  refuse (t.book? (some e.bookId)).isNone .dangling
  refuse (t.chapterById? (some e.chapterId)).isNone .dangling
  pure { t with toc := t.toc ++ [e] }

/-- Puts in a bookmark in place of the one that its book has. -/
def putBookmark (t : Tables) (bookId chapterId : String) (progress createdAt : Binary64) :
    Except StoreError Tables := do
  refuse (progress = .nan) (.missing "bookmarks.progress")
  refuse (createdAt = .nan) (.missing "bookmarks.created_at")
  refuse (t.book? (some bookId)).isNone .dangling
  refuse (t.chapterById? (some chapterId)).isNone .dangling
  let id := t.lastBookmarkId + 1
  let b := ⟨id, bookId, chapterId, progress.unsignZero, createdAt.unsignZero⟩
  pure { t with
    bookmarks := t.bookmarks.filter (·.bookId ≠ bookId) ++ [b]
    lastBookmarkId := id }

def deleteBookmark (t : Tables) (bookId : String) : Tables :=
  { t with bookmarks := t.bookmarks.filter (·.bookId ≠ bookId) }

end Tables
end EpubLibrary
