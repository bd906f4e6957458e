import EpubLibrary.Text.Loose

namespace EpubLibrary

inductive Collision where
  /-- the digest is stored under another identifier than the derived one -/
  | digest (digest : String) (stored : Option String) (derived : Option LooseText)
  | bookId (id : Option String)
  /-- two chapters of one book have the same identifier -/
  | repeatedChapter
  | chapterId (id : Option String)
  deriving DecidableEq

inductive Violation where
  /-- a required cell is missing -/
  | missing (column : String)
  /-- a row with the same cells is there -/
  | repeated (columns : String)
  /-- a row that is referred to is not there -/
  | dangling
  deriving DecidableEq

inductive StoreError where
  | collision (c : Collision)
  | violation (v : Violation)
  /-- an integer beyond 64 bits -/
  | tooLarge
  /-- a text that has no bytes -/
  | unencodable (s : Text.Charset.Stray)
  /-- a transaction is left open -/
  | nested
  | closed
  deriving DecidableEq

/-- How an identifier that may be missing is told. -/
def tellId (id : Option String) : String := id.getD "None"

def Collision.message : Collision → String
  | .digest hash stored derived =>
    "digest " ++ hash ++ " stored as " ++ tellId stored ++ ", derived as " ++
      tellId (derived.map (·.shown))
  | .bookId id => "book id " ++ tellId id ++ " already used by different content"
  | .repeatedChapter => "duplicate chapter id within one book"
  | .chapterId id => "chapter id " ++ tellId id ++ " already used by different content"

def Violation.message : Violation → String
  | .missing column => "NOT NULL constraint failed: " ++ column
  | .repeated columns => "UNIQUE constraint failed: " ++ columns
  | .dangling => "FOREIGN KEY constraint failed"

def StoreError.message : StoreError → String
  | .collision c => c.message
  | .violation v => v.message
  | .tooLarge => "Python int too large to convert to SQLite INTEGER"
  | .unencodable s => s.message
  | .nested => "cannot start a transaction within a transaction"
  | .closed => "Cannot operate on a closed database."

end EpubLibrary
