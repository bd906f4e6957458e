import EpubLibrary.Html.Encoding
import EpubLibrary.Html.Printer
import EpubLibrary.Html.Prune

namespace EpubLibrary.Html

/-- Is the node an XML declaration, which reads as a comment in markup? -/
def isDeclaration : Node → Bool
  | .text .instruction _ => true
  | .text .comment s => "?xml".toList.isPrefixOf (s.toList.dropWhile Text.isBlank)
  | _ => false

mutual

def withoutDeclarations : Node → Node
  | .text kind s => .text kind s
  | .element name attributes children => .element name attributes (dropDeclarations children)

/-- The nodes without XML declarations at any depth. -/
def dropDeclarations : List Node → List Node
  | [] => []
  | node :: rest =>
    if isDeclaration node then dropDeclarations rest
    else withoutDeclarations node :: dropDeclarations rest

end

/-- The text without a byte-order mark at its start. -/
def dropMark : List Char → List Char
  | '\ufeff' :: s => s
  | s => s

/-- The tree of a markup text after both clean-ups. -/
def normalTree (markup : List Char) : List Node :=
  prune (dropDeclarations (parse (dropMark markup)))

def normalize (markup : String) : String :=
  String.ofList (render (normalTree markup.toList))

/-- The normal form of a document's bytes, or the surrogates of its text that stand alone. -/
def normalizeBytes (bytes : Bytes) : Except Text.Charset.Stray String :=
  let markup := decodeMarkup bytes
  match strayOf? bytes with
  | some stray =>
    let dropped := markup.length - (dropMark markup.toList).length
    .error { stray with position := stray.position - dropped }
  | none => .ok (normalize markup)

end EpubLibrary.Html
