import EpubLibrary.Number.Decimal
import EpubLibrary.Text.Blank
import EpubLibrary.Epub.Error

namespace EpubLibrary.Epub

/-- A single value. -/
inductive MetaValue where
  | absent
  | text (s : String)
  | number (n : Number)
  | truth (b : Bool)
  deriving DecidableEq

/-- A value of a field, with attributes or alone. -/
inductive MetaEntry where
  | tagged (value : MetaValue)
  | bare (value : MetaValue)
  deriving DecidableEq

/-- How a value is written. -/
def MetaValue.toText : MetaValue → String
  | .absent => "None"
  | .text s => s
  | .number n => n.text
  | .truth b => if b then "True" else "False"

/-- Does a value say nothing? -/
def MetaValue.isEmpty : MetaValue → Bool
  | .absent => true
  | .text s => s = ""
  | .number (.integer n) => n = 0
  | .number (.binary (.finite _ m _)) => m = 0
  | .number (.binary _) => false
  | .truth b => !b

/-- The text of an entry, without the blanks around it. -/
def MetaEntry.toText : MetaEntry → String
  | .tagged value => if value.isEmpty then "" else Text.stripText value.toText
  | .bare value => Text.stripText value.toText

/-- The fields of a package and their values; none at all if the package has no such metadata. -/
abbrev DublinCore := List (String × List MetaEntry)

/-- The text of a field: that of its first value, or nothing. -/
def DublinCore.text (dc : DublinCore) (field : String) : String :=
  match dc.find? (·.1 = field) with
  | some (_, entry :: _) => entry.toText
  | _ => ""

/-- What a book tells about itself. -/
structure BookMetadata where
  title : String
  language : String
  identifier : String
  creator : Option String
  description : Option String
  publisher : Option String
  deriving DecidableEq

/-- The metadata of a book; the title is asked for first. -/
def BookMetadata.ofDublinCore (dc : DublinCore) : Except ArchiveError BookMetadata :=
  let identifier := dc.text "identifier"
  let title := dc.text "title"
  let language := dc.text "language"
  if title = "" then .error ⟨.missingField "title", declared identifier⟩
  else if language = "" then .error ⟨.missingField "language", declared identifier⟩
  else
    .ok ⟨title, language, identifier, declared (dc.text "creator"),
      declared (dc.text "description"), declared (dc.text "publisher")⟩

end EpubLibrary.Epub
