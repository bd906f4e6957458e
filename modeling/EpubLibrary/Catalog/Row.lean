import EpubLibrary.Bytes
import EpubLibrary.Number.Binary64

namespace EpubLibrary

structure Book where
  id : Option String
  identifier : String
  language : String
  title : String
  contentHash : String
  creator : Option String
  description : Option String
  publisher : Option String
  deriving DecidableEq

structure Chapter where
  id : Option String
  bookId : String
  index : Int
  /-- the payload that holds the text -/
  content : Bytes
  deriving DecidableEq

structure TocEntry where
  id : Option String
  bookId : String
  index : Int
  chapterId : String
  title : String
  deriving DecidableEq

/-- A reading position: a fraction of a chapter, and the time when it was set. -/
structure Bookmark where
  id : Nat
  bookId : String
  chapterId : String
  progress : Binary64
  createdAt : Binary64
  deriving DecidableEq

structure BookRecord where
  book : Book
  chapters : List Chapter
  toc : List TocEntry
  deriving DecidableEq

end EpubLibrary
