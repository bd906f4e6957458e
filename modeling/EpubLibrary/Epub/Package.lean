import EpubLibrary.Archive.Zip
import EpubLibrary.Epub.Manifest
import EpubLibrary.Epub.Metadata
import EpubLibrary.Epub.Navigation
import EpubLibrary.Xml.Instruction

/-!
# Packages

A `Package` is what an archive tells of a book: metadata, items, spine and table of contents.
`Package.read` reads it: the container names the package document, whose parts are read in the order
metadata, manifest, spine, and last the navigation documents.
-/

namespace EpubLibrary.Epub

structure Package where
  dublinCore : DublinCore
  items : List Item
  spine : List (Option String)
  toc : Outline

/-- Something that is there, or the package is malformed. -/
def required {α : Type} : Option α → Except PackageError α
  | some a => .ok a
  | none => .error .malformed

/-- The content of the member at a written path. -/
def readMember (zip : Archive.Zip) (path : List Char) : Except PackageError Bytes :=
  let name := Path.normalText path
  match zip.find? name with
  | none => .error (.noMember (String.ofList name))
  | some m => required (zip.content? m)

/-! ## The container -/

def containerSpace : String := "urn:oasis:names:tc:opendocument:xmlns:container"

def packageMedia : String := "application/oebps-package+xml"

/-- The path of the package document: the last one that the container names, or nothing. -/
def packagePath (zip : Archive.Zip) : Except PackageError (List Char) := do
  let root ← required (Xml.parse? (← readMember zip "META-INF/container.xml".toList))
  let files := (root.descendants containerSpace "rootfile").filter fun node =>
    node.attribute? "media-type" = some packageMedia
  let paths ← files.mapM fun node => required (node.attribute? "full-path")
  pure ((paths.getLast?.map String.toList).getD [])

/-! ## Metadata -/

def packageSpace : String := "http://www.idpf.org/2007/opf"

def dublinCoreSpace : String := "http://purl.org/dc/elements/1.1/"

/-- A value with the namespace and the name of its field. -/
structure Statement where
  space : Option String
  field : Option String
  entry : MetaEntry

/-- The statement that a child of the metadata makes, if it makes one. In a `meta` element the field
is named by an attribute, where a prefix may tell the namespace. -/
def statement? (defaultSpace : Option String) (node : Xml.Node) :
    Except PackageError (Option Statement) :=
  let entry := MetaEntry.tagged ((node.leadingText.map MetaValue.text).getD .absent)
  match node with
  | .text _ | .comment _ => .ok none
  | .instruction .. | .reference _ => .error .malformed
  | .element name _ scope _ =>
    let spaces := Xml.Scope.known scope
    if name.space = defaultSpace ∧ name.own = "meta" then
      let written := node.attribute? "name"
      match written.map String.toList with
      | none => .ok (some ⟨spaces.lookup none, none, entry⟩)
      | some s =>
        match s.dropWhile (· ≠ ':') with
        | [] => .ok (some ⟨spaces.lookup none, written, entry⟩)
        | _ :: field =>
          let mark := String.ofList (s.takeWhile (· ≠ ':'))
          let space := (spaces.lookup (some mark)).getD mark
          .ok (some ⟨some space, some (String.ofList field), entry⟩)
    else
      match spaces.lookup name.mark with
      | some space => .ok (some ⟨some space, some name.own, entry⟩)
      | none => .error .malformed

/-- Adds a value behind those of its field. -/
def DublinCore.add (dc : DublinCore) (field : String) (entry : MetaEntry) : DublinCore :=
  match dc with
  | [] => [(field, [entry])]
  | (name, entries) :: rest =>
    if name = field then (name, entries ++ [entry]) :: rest
    else (name, entries) :: DublinCore.add rest field entry

/-- The Dublin Core fields of a package document. Their namespace must be known in it. -/
def readMetadata (root : Xml.Node) : Except PackageError DublinCore := do
  let metadata ← required (root.child? packageSpace "metadata")
  let spaces := Xml.Scope.known metadata.scope
  let statements := (← metadata.children.mapM (statement? (spaces.lookup none))).reduceOption
  let own := statements.filter (·.space = some dublinCoreSpace)
  if own.isEmpty && !(spaces.any (·.2 = dublinCoreSpace)) then .error .malformed
  else
    pure (own.foldl (fun dc s =>
      match s.field with
      | some field => dc.add field s.entry
      | none => dc) [])

/-! ## Manifest -/

def documentMedia : String := "application/xhtml+xml"

def imageMedia : List String := ["image/jpeg", "image/jpg", "image/png", "image/svg+xml"]

/-- The item that an element of the manifest lists. A cover page always has the same name. -/
def readItem (zip : Archive.Zip) (directory : List Char) (node : Xml.Node) :
    Except PackageError Item := do
  let href ← required (node.attribute? "href")
  let id := node.attribute? "id"
  let media := (node.attribute? "media-type").getD ""
  let properties := ((node.attribute? "properties").getD "").toList.splitOn ' '
  let path := Text.Percent.decode href.toList
  let name := String.ofList path
  if media = documentMedia ∧ properties.contains "nav".toList then
    let content ← readMember zip (Path.joinText directory href.toList)
    pure ⟨id, name, .navigation, content⟩
  else
    let content ← readMember zip (Path.joinText directory path)
    if media = documentMedia then
      if properties.contains "cover".toList then
        pure ⟨some "cover", "cover.xhtml", .document, content⟩
      else pure ⟨id, name, .document, content⟩
    else if imageMedia.contains media ∧ !properties.contains "cover-image".toList then
      pure ⟨id, name, .image, content⟩
    else pure ⟨id, name, .other, content⟩

/-- The items of a package document. -/
def readManifest (zip : Archive.Zip) (directory : List Char) (root : Xml.Node) :
    Except PackageError (List Item) := do
  let manifest ← required (root.child? packageSpace "manifest")
  let nodes := manifest.children.filter (·.isNamed packageSpace "item")
  pure (numberItems .start (← nodes.mapM (readItem zip directory)))

/-! ## Spine and table of contents -/

/-- The identifier that a child of the spine refers to. -/
def reference? : Xml.Node → Option String
  | .element _ attributes _ _ => attributes.lookup "idref"
  | .instruction _ s => (Xml.instructionAttributes s.toList).lookup "idref"
  | _ => none

/-- The table of contents that the spine names by the identifier of an NCX, if it names one. -/
def readNcx (zip : Archive.Zip) (directory : List Char) (items : List Item) (spine : Xml.Node) :
    Except PackageError (Option Outline) :=
  match spine.attribute? "toc" with
  | none | some "" => .ok none
  | some id => do
    let item ← required (itemWithId? items (some id))
    let bytes ← (readMember zip (Path.joinText directory item.name.toList)).mapError fun e =>
      match e with
      | .noMember _ => .noNcx
      | e => e
    let root ← required (Xml.parse? bytes)
    pure (some (← required (Outline.ofNcx? root)))

/-- The table of contents of the first navigation document, unless there is one already. -/
def readNavigation (items : List Item) (ncx : Option Outline) : Except PackageError Outline :=
  match items.find? (·.kind = .navigation) with
  | none => .ok (ncx.getD (.group []))
  | some item => do
    let navigation ← required (Navigation.ofMarkup? item.name item.content)
    let toc ←
      match ncx with
      | some toc => pure toc
      | none => required navigation.toc?
    if navigation.hasSoundPages then pure toc else .error .malformed

/-- Reads the package document at a path. -/
def readPackage (zip : Archive.Zip) (path : List Char) : Except PackageError Package := do
  let directory := Path.parentText path
  let bytes ← (readMember zip path).mapError fun e =>
    match e with
    | .noMember _ => .noPackage
    | e => e
  let root ← required (Xml.parse? bytes)
  let dublinCore ← readMetadata root
  let items ← readManifest zip directory root
  let spine ← required (root.child? packageSpace "spine")
  let ncx ← readNcx zip directory items spine
  let toc ← readNavigation items ncx
  let references := (spine.children.filter (!·.isText)).map reference?
  pure ⟨dublinCore, items, references, toc⟩

/-- Reads the package of an archive. -/
def Package.read (bytes : Bytes) : Except PackageError Package := do
  let zip ← (Archive.Zip.read bytes).mapError fun
    | .malformed => PackageError.badArchive
    | .unsupported => PackageError.malformed
  readPackage zip (← packagePath zip)

end EpubLibrary.Epub
