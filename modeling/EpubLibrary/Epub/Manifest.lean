import EpubLibrary.Bytes
import EpubLibrary.Epub.Error

namespace EpubLibrary.Epub

/-- What an item is for. -/
inductive ItemKind where
  | document
  /-- a document that holds the table of contents -/
  | navigation
  | image
  | other
  deriving DecidableEq

def ItemKind.isDocument (kind : ItemKind) : Bool := kind = .document || kind = .navigation

structure Item where
  id : Option String
  name : String
  kind : ItemKind
  content : Bytes
  deriving DecidableEq

/-- How many items of each kind have been given an identifier. -/
structure Numbering where
  documents : Nat
  images : Nat
  others : Nat

def Numbering.start : Numbering := ⟨0, 0, 0⟩

/-- The next identifier of a kind, and the numbering after it. -/
def Numbering.next (n : Numbering) : ItemKind → String × Numbering
  | .document | .navigation =>
    ("chapter_" ++ toString n.documents, { n with documents := n.documents + 1 })
  | .image => ("image_" ++ toString n.images, { n with images := n.images + 1 })
  | .other => ("static_" ++ toString n.others, { n with others := n.others + 1 })

/-- Gives an identifier to each item whose own is missing or empty. -/
def numberItems : Numbering → List Item → List Item
  | _, [] => []
  | n, item :: rest =>
    if (item.id.getD "") = "" then
      let (id, n) := n.next item.kind
      { item with id := some id } :: numberItems n rest
    else item :: numberItems n rest

/-- The first item with an identifier. -/
def itemWithId? (items : List Item) (id : Option String) : Option Item :=
  items.find? (·.id = id)

/-- The items that a spine names, in its order. -/
def namedItems (items : List Item) : List (Option String) → Except Fault (List Item)
  | [] => .ok []
  | id :: rest =>
    match itemWithId? items id with
    | none => .error (.missingItem id)
    | some item => (namedItems items rest).map (item :: ·)

/-- The items in reading order: those of the spine, or all documents if it is empty. -/
def spineItems (identifier : String) (items : List Item) (spine : List (Option String)) :
    Except ArchiveError (List Item) :=
  if spine.isEmpty then .ok (items.filter (·.kind.isDocument))
  else (namedItems items spine).mapError (⟨·, declared identifier⟩)

end EpubLibrary.Epub
