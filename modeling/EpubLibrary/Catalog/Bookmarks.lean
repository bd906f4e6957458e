import EpubLibrary.Catalog.Store

namespace EpubLibrary

/-- Why a reading position is refused. -/
inductive BookmarkError where
  | outside (progress : Number)
  /-- outside as well, and an integer of too many digits to be told -/
  | untold
  | noBook (bookId : LooseText)
  /-- the chapter is not one of the book's -/
  | notInBook (chapterId bookId : LooseText)
  | store (e : StoreError)
  deriving DecidableEq

def BookmarkError.message : BookmarkError → String
  | .outside progress => "progress " ++ progress.text ++ " is outside [0, 1]"
  | .untold => Text.untoldMessage
  | .noBook bookId => "no book " ++ bookId.shown
  | .notInBook chapterId bookId =>
    "chapter " ++ chapterId.shown ++ " does not belong to book " ++ bookId.shown
  | .store e => e.message

/-- A reading position that was just set, with the time as the clock told it. -/
structure Position where
  bookId : LooseText
  chapterId : LooseText
  progress : Binary64
  createdAt : Number
  deriving DecidableEq

/-- Refuses what does not hold. -/
def demand (holds : Bool) (e : BookmarkError) : Except BookmarkError Unit :=
  if holds then .ok () else .error e

/-- Refuses a position that is none within a stored chapter of a stored book. -/
def Store.checkPosition (s : Store) (bookId chapterId : LooseText) (progress : Number) :
    Except BookmarkError Unit := do
  demand progress.isFraction (if progress.isWritable then .outside progress else .untold)
  let book ← (s.lookBy bookId fun t id => t.book? (some id)).mapError .store
  demand book.isSome (.noBook bookId)
  let chapter ← (s.lookBy chapterId fun t id => t.chapterById? (some id)).mapError .store
  demand (chapter.any fun c => bookId = c.bookId) (.notInBook chapterId bookId)

/-- Sets the reading position of a book at a time. -/
def Store.setBookmark (s : Store) (bookId chapterId : LooseText) (progress now : Number) :
    Except BookmarkError Position × Store :=
  match s.checkPosition bookId chapterId progress with
  | .error e => (.error e, s)
  | .ok _ =>
    let fraction := progress.toBinary?.getD .nan
    match s.saveBookmark bookId chapterId (.binary fraction) now with
    | (.ok _, s) => (.ok ⟨bookId, chapterId, fraction, now⟩, s)
    | (.error e, s) => (.error (.store e), s)

end EpubLibrary
