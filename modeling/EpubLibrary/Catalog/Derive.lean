import EpubLibrary.Catalog.Row
import EpubLibrary.Epub.Book
import EpubLibrary.Identity
import EpubLibrary.Payload

namespace EpubLibrary

/-- Why no record can be derived. -/
inductive DeriveError where
  | level (e : LevelError)
  /-- an entry of the table of contents leads to no chapter -/
  | noChapter
  deriving DecidableEq

def DeriveError.message : DeriveError → String
  | .level e => e.message
  | .noChapter => "list index out of range"

/-- The element at a position, where a negative one counts from the end. -/
def atPosition? {α : Type} (l : List α) (i : Int) : Option α :=
  if 0 ≤ i then l[i.toNat]? else if -i ≤ l.length then l[l.length - (-i).toNat]? else none

/-- The chapter of a text at a position. -/
def deriveChapter (bookId : Uuid) (level : Int) (html : String) (index : Nat) :
    Except DeriveError Chapter := do
  let payload := Bytes.ofText html
  let content ← (Payload.compress payload level).mapError .level
  pure ⟨some (Identity.chapter bookId index payload).toText, bookId.toText, index, content⟩

/-- The entry at a position of the table of contents, by the chapters of its book. -/
def deriveTocEntry (bookId : Uuid) (chapters : List Chapter) (entry : Int × String) (index : Nat) :
    Except DeriveError TocEntry :=
  match (atPosition? chapters entry.1).bind (·.id) with
  | some chapterId =>
    .ok ⟨some (Identity.tocEntry bookId index).toText, bookId.toText, index, chapterId, entry.2⟩
  | none => .error .noChapter

/-- The record of an extracted book whose archive has a digest. -/
def BookRecord.derive (extracted : Epub.ExtractedBook) (digest : String) (root : Uuid)
    (level : Int) : Except DeriveError BookRecord := do
  let bookId := Identity.book root digest
  let m := extracted.metadata
  let chapters ← extracted.chapters.zipIdx.mapM fun (html, i) => deriveChapter bookId level html i
  let toc ← extracted.toc.zipIdx.mapM fun (entry, i) => deriveTocEntry bookId chapters entry i
  pure ⟨⟨some bookId.toText, m.identifier, m.language, m.title, digest, m.creator, m.description,
    m.publisher⟩, chapters, toc⟩

end EpubLibrary
