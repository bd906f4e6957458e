import EpubLibrary.Epub.Book
import EpubLibrary.Proofs.Results

namespace EpubLibrary

open Archive Epub

/-! ## Archives -/

namespace Archive.Zip

theorem slice_toArray (bytes : Bytes) (start count : Nat) :
    slice bytes.toArray start count = (bytes.drop start).take count := by
  simp [slice]

/-- An archive is read from the part of it that its end record calls the directory. -/
theorem read_of_directory {bytes : Bytes} {d : Directory} {members : List Member}
    (found : directory bytes.toArray = .ok d)
    (listed : readMembers d.shift (((bytes.drop d.start).take d.size).length + 1) d.size
      ((bytes.drop d.start).take d.size) = .ok members) :
    read bytes = .ok ⟨bytes.toArray, withStops d.start members⟩ := by
  rw [← slice_toArray] at listed
  simp only [read, found, bind, Except.bind, listed]
  rfl

end Archive.Zip

/-! ## Packages -/

namespace Epub

variable {zip : Zip} {path : List Char} {bytes : Bytes}

theorem readMember_of_content {m : Member} (found : zip.find? (Path.normalText path) = some m)
    (content : zip.content? m = some bytes) : readMember zip path = .ok bytes := by
  simp [readMember, found, content, required]

/-- A package is read from the parts of its document. -/
theorem readPackage_of_parts {root spine : Xml.Node} {dc : DublinCore} {items : List Item}
    {ncx : Option Outline} {toc : Outline} (content : readMember zip path = .ok bytes)
    (parsed : Xml.parse? bytes = some root) (metadata : readMetadata root = .ok dc)
    (manifest : readManifest zip (Path.parentText path) root = .ok items)
    (listed : root.child? packageSpace "spine" = some spine)
    (named : readNcx zip (Path.parentText path) items spine = .ok ncx)
    (navigation : readNavigation items ncx = .ok toc) :
    readPackage zip path =
      .ok ⟨dc, items, (spine.children.filter (!·.isText)).map reference?, toc⟩ := by
  simp only [readPackage, content, parsed, metadata, manifest, listed, named, navigation, required,
    Except.mapError, bind, Except.bind]
  rfl

/-- A book is what the package holds that the container of its archive names. -/
theorem read_of_package {p : Package} (opened : Zip.read bytes = .ok zip)
    (named : packagePath zip = .ok path) (package : readPackage zip path = .ok p) :
    ExtractedBook.read bytes = p.extract := by
  have read : Package.read bytes = .ok p :=
    bind_ok_iff.2 ⟨zip, mapError_ok_iff.2 opened, bind_ok_iff.2 ⟨path, named, package⟩⟩
  unfold ExtractedBook.read
  rw [read]

/-! ## A book of one page -/

/-- An archive with a book of one page. Its directory lists the page, the package document and the
container, which stand in it the other way round. -/
def leaf : Bytes :=
  [0x504B0304140000080000000021000934C24B9300000093000000160000004D45,
    0x54412D494E462F636F6E7461696E65722E786D6C3C636F6E7461696E65722078,
    0x6D6C6E733D2275726E3A6F617369733A6E616D65733A74633A6F70656E646F63,
    0x756D656E743A786D6C6E733A636F6E7461696E6572223E3C726F6F7466696C65,
    0x206D656469612D747970653D226170706C69636174696F6E2F6F656270732D70,
    0x61636B6167652B786D6C222066756C6C2D706174683D2270222F3E3C2F636F6E,
    0x7461696E65723E504B030414000008000000002100DA5D1BFC1B0100001B0100,
    0x0001000000703C7061636B61676520786D6C6E733D22687474703A2F2F777777,
    0x2E696470662E6F72672F323030372F6F7066223E3C6D6574616461746120786D,
    0x6C6E733A643D22687474703A2F2F7075726C2E6F72672F64632F656C656D656E,
    0x74732F312E312F223E3C643A7469746C653E4F6E653C2F643A7469746C653E3C,
    0x643A6C616E67756167653E656E3C2F643A6C616E67756167653E3C2F6D657461,
    0x646174613E3C6D616E69666573743E3C6974656D2069643D2269222068726566,
    0x3D226322206D656469612D747970653D226170706C69636174696F6E2F786874,
    0x6D6C2B786D6C222F3E3C2F6D616E69666573743E3C7370696E653E3C6974656D,
    0x7265662069647265663D2269222F3E3C2F7370696E653E3C2F7061636B616765,
    0x3E504B030414000008000000002100C953B8A608000000080000000100000063,
    0x3C703E613C2F703E504B0102140014000008000000002100C953B8A608000000,
    0x0800000001000000000000000000000000000102000063504B01021400140000,
    0x08000000002100DA5D1BFC1B0100001B01000001000000000000000000000000,
    0x00C700000070504B01021400140000080000000021000934C24B930000009300,
    0x00001600000000000000000000000000000000004D4554412D494E462F636F6E,
    0x7461696E65722E786D6C504B05060000000003000300A2000000280200000000].flatMap (Bytes.ofNatBe 32)

/-- A member of it, packed as it is. -/
def leafMember (name : List Char) (checksum size start : Nat) (stop : Int) : Member :=
  ⟨name, name, 0x800, 0, checksum, size, size, start, stop⟩

def leafPage (stop : Int) : Member := leafMember ['c'] 0xA6B853C9 8 513 stop

def leafDocument (stop : Int) : Member := leafMember ['p'] 0xFC1B5DDA 283 199 stop

def leafContainer (stop : Int) : Member :=
  leafMember "META-INF/container.xml".toList 0x4BC23409 147 0 stop

def leafZip : Zip := ⟨leaf.toArray, [leafPage 552, leafDocument 513, leafContainer 199]⟩

theorem read_leafZip : Zip.read leaf = .ok leafZip := by
  have found : Zip.directory leaf.toArray = .ok ⟨552, 162, 0⟩ := by decide +kernel
  have listed : Zip.readMembers 0 (((leaf.drop 552).take 162).length + 1) 162
      ((leaf.drop 552).take 162) = .ok [leafPage 0, leafDocument 0, leafContainer 0] := by
    decide +kernel
  have stops : Zip.withStops (552 : Nat) [leafPage 0, leafDocument 0, leafContainer 0] =
      leafZip.members := by
    rw [Zip.withStops, List.mergeSort_of_pairwise (by decide)]
    decide
  have read := Zip.read_of_directory found listed
  rw [stops] at read
  exact read

theorem content_leafContainer :
    leafZip.content? (leafContainer 199) = some ((leaf.drop 52).take 147) := by
  rw [Zip.content?, Zip.packed?]
  simp only [leafZip, Zip.slice_toArray]
  decide +kernel

theorem content_leafDocument :
    leafZip.content? (leafDocument 513) = some ((leaf.drop 230).take 283) := by
  rw [Zip.content?, Zip.packed?]
  simp only [leafZip, Zip.slice_toArray]
  decide +kernel

theorem packagePath_leafZip : packagePath leafZip = .ok ['p'] := by
  rw [packagePath, readMember_of_content (by decide +kernel) content_leafContainer]
  decide +kernel

def leafPackage : Package where
  dublinCore := [("title", [.tagged (.text "One")]), ("language", [.tagged (.text "en")])]
  items := [⟨some "i", "c", .document, Bytes.ofText "<p>a</p>"⟩]
  spine := [some "i"]
  toc := .group []

def leafRoot : Xml.Node := (Xml.parse? ((leaf.drop 230).take 283)).getD (.text "")

theorem parse_leafRoot : Xml.parse? ((leaf.drop 230).take 283) = some leafRoot := by
  obtain ⟨root, parsed⟩ : ∃ root, Xml.parse? ((leaf.drop 230).take 283) = some root :=
    Option.isSome_iff_exists.1 (by decide +kernel)
  rw [leafRoot, parsed, Option.getD_some]

def leafSpine : Xml.Node := (leafRoot.child? packageSpace "spine").getD (.text "")

theorem child_leafSpine : leafRoot.child? packageSpace "spine" = some leafSpine := by
  obtain ⟨spine, listed⟩ : ∃ spine, leafRoot.child? packageSpace "spine" = some spine :=
    Option.isSome_iff_exists.1 (by decide +kernel)
  rw [leafSpine, listed, Option.getD_some]

theorem readPackage_leafZip : readPackage leafZip ['p'] = .ok leafPackage := by
  have content : readMember leafZip ['p'] = .ok ((leaf.drop 230).take 283) :=
    readMember_of_content (by decide +kernel) content_leafDocument
  have metadata : readMetadata leafRoot = .ok leafPackage.dublinCore := by decide +kernel
  have manifest :
      readManifest leafZip (Path.parentText ['p']) leafRoot = .ok leafPackage.items := by
    decide +kernel
  have told : leafSpine.attribute? "toc" = none := by decide +kernel
  have named : readNcx leafZip (Path.parentText ['p']) leafPackage.items leafSpine = .ok none := by
    rw [readNcx, told]
  have navigation : readNavigation leafPackage.items none = .ok leafPackage.toc := rfl
  have references : (leafSpine.children.filter (!·.isText)).map reference? = [some "i"] := by
    decide +kernel
  rw [readPackage_of_parts content parse_leafRoot metadata manifest child_leafSpine named
    navigation, references]
  rfl

/-- What is read of it. -/
theorem read_leaf : ExtractedBook.read leaf = .ok ⟨⟨"One", "en", "", none, none, none⟩,
    ["<html><body><p>a</p></body></html>"], []⟩ := by
  rw [read_of_package read_leafZip packagePath_leafZip readPackage_leafZip]
  decide +kernel

end Epub
end EpubLibrary

