import EpubLibrary.Catalog.Import
import EpubLibrary.Number.Decimal
import EpubLibrary.Payload

/-!
# The store

A `Store` is the tables of the library and the state of the connection to them. Every operation
gives an answer or an error, and the store after it. A bookmark that cannot be saved or deleted
leaves a transaction open, in which no book can be imported until a bookmark is saved or deleted.
-/

namespace EpubLibrary

structure Store where
  tables : Tables
  /-- a transaction was begun and not ended -/
  isPending : Bool
  isOpen : Bool
  deriving DecidableEq

namespace Store

def empty : Store := ⟨.empty, false, true⟩

/-- What an operation answers. -/
abbrev Reply (α : Type) := Except StoreError α × Store

/-- Ends the connection; a transaction that is open has changed nothing. -/
def close (s : Store) : Store := { s with isPending := false, isOpen := false }

def reopen (s : Store) : Store := { s with isPending := false, isOpen := true }

/-- Asks the tables. -/
def query {α : Type} (s : Store) (ask : Tables → Except StoreError α) : Except StoreError α :=
  if s.isOpen then ask s.tables else .error .closed

/-- A query that always has an answer. -/
def look {α : Type} (s : Store) (ask : Tables → α) : Except StoreError α :=
  s.query fun t => .ok (ask t)

/-- A query by a text. -/
def lookBy {α : Type} (s : Store) (key : LooseText) (ask : Tables → String → α) :
    Except StoreError α :=
  s.query fun t => ask t <$> Cell.text key

/-! ## Queries -/

def chapter? (s : Store) (bookId : LooseText) (index : Int) :
    Except StoreError (Option Chapter) :=
  s.query fun t => do
    let bookId ← Cell.text bookId
    let index ← Cell.integer index
    pure (t.chapter? bookId index)

/-- Why a chapter cannot be read. -/
inductive ReadError where
  | store (e : StoreError)
  | payload (e : PayloadError)

/-- The text of a chapter, if there is one. -/
def readChapter (s : Store) (id : LooseText) : Except ReadError (Option String) := do
  match ← (s.lookBy id fun t id => t.chapterById? (some id)).mapError .store with
  | none => pure none
  | some c => some <$> (Payload.decompressText c.content).mapError .payload

/-! ## Books -/

/-- Stores a record as one: true if it was put in, false if its content was there already. -/
def importDraft (s : Store) (r : RecordDraft) : Reply Bool :=
  if !s.isOpen then (.error .closed, s)
  else if s.isPending then (.error .nested, s)
  else
    match s.tables.importDraft r with
    | .error e => (.error e, s)
    | .ok none => (.ok false, s)
    | .ok (some t) => (.ok true, { s with tables := t })

def importBook (s : Store) (r : BookRecord) : Reply Bool := s.importDraft r.draft

/-! ## Bookmarks -/

/-- A number as a cell of a bookmark holds it: integers must fit a cell. -/
def storedNumber (n : Number) : Except StoreError Binary64 :=
  match n with
  | .integer i =>
    match Cell.fits i, Binary64.ofInt? i with
    | true, some x => .ok x
    | _, _ => .error .tooLarge
  | .binary x => .ok x

/-- Puts in a bookmark in place of the one that its book has. -/
def saveBookmark (s : Store) (bookId chapterId : LooseText) (progress createdAt : Number) :
    Reply Unit :=
  if !s.isOpen then (.error .closed, s)
  else
    let saved := do
      let bookId ← Cell.text bookId
      let chapterId ← Cell.text chapterId
      let progress ← storedNumber progress
      let createdAt ← storedNumber createdAt
      s.tables.putBookmark bookId chapterId progress createdAt
    match saved with
    | .ok t => (.ok (), { s with tables := t, isPending := false })
    | .error e => (.error e, { s with isPending := true })

def deleteBookmark (s : Store) (bookId : LooseText) : Reply Unit :=
  if !s.isOpen then (.error .closed, s)
  else
    match Cell.text bookId with
    | .ok id => (.ok (), { s with tables := s.tables.deleteBookmark id, isPending := false })
    | .error e => (.error e, { s with isPending := true })

end Store
end EpubLibrary
