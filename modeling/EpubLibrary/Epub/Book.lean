import EpubLibrary.Epub.Package
import EpubLibrary.Html.Normalize

namespace EpubLibrary.Epub

structure ExtractedBook where
  metadata : BookMetadata
  chapters : List String
  /-- positions of chapters and titles; a negative position counts from the end -/
  toc : List (Int × String)
  deriving DecidableEq

/-- The normal forms of the contents of items, in their order. -/
def readChapters (items : List Item) : Except ExtractError (List String) :=
  items.mapM fun item => (Html.normalizeBytes item.content).mapError .unencodable

/-- The book that a package describes. -/
def Package.extract (p : Package) : Except ExtractError ExtractedBook := do
  let metadata ← (BookMetadata.ofDublinCore p.dublinCore).mapError .malformed
  let identifier := metadata.identifier
  let items ← (spineItems identifier p.items p.spine).mapError .malformed
  let chapters ← readChapters items
  let toc ← (extractToc identifier p.toc (items.map (·.name))).mapError .malformed
  pure ⟨metadata, chapters, toc.map fun (i, title) => ((i : Int), title)⟩

/-- The book in an archive. -/
def ExtractedBook.read (bytes : Bytes) : Except ExtractError ExtractedBook :=
  match Package.read bytes with
  | .error cause => .error (.malformed ⟨.unreadable cause, none⟩)
  | .ok p => p.extract

end EpubLibrary.Epub
