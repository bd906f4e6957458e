import EpubLibrary.Uuid
import EpubLibrary.Hash.Sha256

namespace EpubLibrary

/-- The 64 hexadecimal digits of the SHA-256 of the bytes. -/
def contentDigest (data : Bytes) : String := Bytes.hex (Sha256.digest data)

namespace Identity

/-- The identifier of the book whose bytes have a digest. -/
def book (root : Uuid) (digest : String) : Uuid := root.named (Bytes.ofText digest)

/-- The name of a chapter below its book: blank pages repeat, so the position is part of it. No
position of more than 4300 digits comes here (`position`). -/
def chapterName (index : Int) (content : Bytes) : String :=
  "chapter:" ++ toString index ++ ":" ++ contentDigest content

def chapter (book : Uuid) (index : Int) (content : Bytes) : Uuid :=
  book.named (Bytes.ofText (chapterName index content))

/-- The name of an entry of the table of contents below its book. -/
def tocName (index : Int) : String := "toc:" ++ toString index

def tocEntry (book : Uuid) (index : Int) : Uuid := book.named (Bytes.ofText (tocName index))

/-! ## Spelled parents -/

/-- Why nothing is derived from a spelled parent. -/
inductive SpellingError where
  | parent (e : Uuid.ParseError)
  /-- the position has more digits than are told -/
  | untold
  deriving DecidableEq

def SpellingError.message : SpellingError → String
  | .parent e => e.message
  | .untold => Text.untoldMessage

def parent (text : String) : Except SpellingError Uuid := (Uuid.parse text).mapError .parent

/-- A position that a name can hold. -/
def position (index : Int) : Except SpellingError Int :=
  if Text.isTellable index then .ok index else .error .untold

/-- The identifier of a book under the root that a text spells. -/
def bookUnder (root digest : String) : Except SpellingError String := do
  let root ← parent root
  pure (book root digest).toText

/-- The identifier of a chapter of the book that a text spells. The name comes first. -/
def chapterUnder (book : String) (index : Int) (content : Bytes) : Except SpellingError String := do
  let index ← position index
  let book ← parent book
  pure (chapter book index content).toText

/-- The identifier of an entry of the table of contents of the book that a text spells. -/
def tocEntryUnder (book : String) (index : Int) : Except SpellingError String := do
  let book ← parent book
  let index ← position index
  pure (tocEntry book index).toText

end Identity
end EpubLibrary
