import EpubLibrary.Text.Quoted
import EpubLibrary.Text.Charset.Unicode

namespace EpubLibrary.Epub

/-- Why no package can be read. -/
inductive PackageError where
  | badArchive
  /-- the archive has no member of the name -/
  | noMember (name : String)
  | noPackage
  | noNcx
  /-- the package is not what the format asks for -/
  | malformed
  deriving DecidableEq

/-- How a missing member is told. A name with quotes of both kinds around it is not shown. -/
def memberMessage (name : String) : String :=
  let shown := Text.quoted ("There is no item named " ++ Text.quoted name ++ " in the archive")
  if "\"".isPrefixOf shown then shown else "..."

def PackageError.message : PackageError → String
  | .badArchive => "'Bad Zip file'"
  | .noMember name => memberMessage name
  | .noPackage => "'Can not find container file'"
  | .noNcx => "'Can not find ncx file.'"
  | .malformed => "..."

/-- What is wrong with an archive. -/
inductive Fault where
  | unreadable (cause : PackageError)
  /-- a required metadata field is missing or empty -/
  | missingField (field : String)
  /-- the spine names an item that is not in the manifest -/
  | missingItem (id : Option String)
  /-- an entry of the table of contents leads to no item of the spine -/
  | brokenReference (href : String)
  deriving DecidableEq

structure ArchiveError where
  fault : Fault
  identifier : Option String
  deriving DecidableEq

def Fault.message : Fault → String
  | .unreadable cause => "unable to parse epub: " ++ cause.message
  | .missingField field => "missing metadata tag " ++ field
  | .missingItem (some id) => "spine references missing item " ++ Text.quoted id
  | .missingItem none => "spine references missing item None"
  | .brokenReference href => "table of contents references missing chapter " ++ Text.quoted href

def ArchiveError.message (e : ArchiveError) : String := e.fault.message

/-- A declared identifier, if it says something. -/
def declared (identifier : String) : Option String :=
  if identifier = "" then none else some identifier

/-- Why a book cannot be extracted. -/
inductive ExtractError where
  | malformed (e : ArchiveError)
  /-- the text of a chapter holds surrogates that stand alone -/
  | unencodable (stray : Text.Charset.Stray)
  deriving DecidableEq

def ExtractError.message : ExtractError → String
  | .malformed e => e.message
  | .unencodable stray => stray.message

end EpubLibrary.Epub
