import EpubLibrary.Html.Node

namespace EpubLibrary.Html

/-- Elements that are written as one tag when they are empty. -/
def isWrittenVoid (name : String) : Bool :=
  ["area", "base", "br", "col", "embed", "hr", "img", "input", "keygen", "link", "menuitem",
    "meta", "param", "source", "track", "wbr", "basefont", "bgsound", "command", "frame", "image",
    "isindex", "nextid", "spacer"].contains name

/-- How a character of a text is written. -/
def escapeChar (c : Char) : List Char :=
  if c = '&' then "&amp;".toList
  else if c = '<' then "&lt;".toList
  else if c = '>' then "&gt;".toList
  else [c]

def escapeText (s : List Char) : List Char := s.flatMap escapeChar

/-- A value between quotes: double quotes unless it holds some and no single ones. -/
def quoteValue (s : List Char) : List Char :=
  if s.contains '"' then
    if s.contains '\'' then
      '"' :: (s.flatMap fun c => if c = '"' then "&quot;".toList else [c]) ++ ['"']
    else '\'' :: s ++ ['\'']
  else '"' :: s ++ ['"']

/-! ## Declared encodings -/

/-- Is the character before a charset declaration one that may separate it? -/
def separatesCharset (previous : Option Char) : Bool :=
  match previous with
  | none => true
  | some c => c = '\n' || c = ';' || Text.isBlank c

/-- Writes `utf-8` behind every `charset=` that starts a parameter. -/
def declareUtf8 : (fuel : Nat) → (previous : Option Char) → List Char → List Char
  | 0, _, s => s
  | _, _, [] => []
  | fuel + 1, previous, c :: s =>
    if separatesCharset previous && "charset=".toList.isPrefixOf (c :: s) then
      let rest := (s.drop 7).dropWhile (· ≠ ';')
      "charset=utf-8".toList ++ declareUtf8 fuel (some 'x') rest
    else c :: declareUtf8 fuel (some c) s

def setAttribute (attributes : Attributes) (name value : String) : Attributes :=
  attributes.map fun a => if a.1 = name then (name, value) else a

/-- The attributes of a `meta` element with its declaration of an encoding made to say `utf-8`. -/
def declareEncoding (attributes : Attributes) : Attributes :=
  if (attributes.lookup "charset").isSome then setAttribute attributes "charset" "utf-8"
  else
    match attributes.lookup "content", attributes.lookup "http-equiv" with
    | some content, some equiv =>
      if equiv.toList.map lower = "content-type".toList then
        setAttribute attributes "content"
          (String.ofList (declareUtf8 (content.length + 1) none content.toList))
      else attributes
    | _, _ => attributes

/-! ## Elements -/

def renderAttribute (a : String × String) : List Char :=
  ' ' :: a.1.toList ++ '=' :: quoteValue (escapeText a.2.toList)

/-- Puts an attribute in its place by name. -/
def insertAttribute (a : String × String) : Attributes → Attributes
  | [] => [a]
  | b :: rest => if b.1 < a.1 then b :: insertAttribute a rest else a :: b :: rest

def sortAttributes (attributes : Attributes) : Attributes := attributes.foldr insertAttribute []

/-- The attributes of an element as they are written. -/
def writtenAttributes (name : String) (attributes : List (String × Value)) : Attributes :=
  let shown := attributes.map fun a => (a.1, a.2.toText)
  sortAttributes (if name = "meta" then declareEncoding shown else shown)

def renderOpening (name : String) (attributes : List (String × Value)) : List Char :=
  '<' :: name.toList ++ (writtenAttributes name attributes).flatMap renderAttribute

def renderText (kind : TextKind) (parent : String) (s : List Char) : List Char :=
  match kind with
  | .comment => "<!--".toList ++ s ++ "-->".toList
  | .cdata => "<![CDATA[".toList ++ s ++ "]]>".toList
  | .instruction => "<?".toList ++ s ++ ['>']
  | .doctype => "<!DOCTYPE ".toList ++ s ++ ['>', '\n']
  | _ => if parent = "script" ∨ parent = "style" then s else escapeText s

mutual

def renderNode (parent : String) : Node → List Char
  | .text kind s => renderText kind parent s.toList
  | .element name attributes children =>
    if children.isEmpty && isWrittenVoid name then renderOpening name attributes ++ ['/', '>']
    else
      renderOpening name attributes ++ '>' :: renderNodes name children ++
        '<' :: '/' :: name.toList ++ ['>']

def renderNodes (parent : String) : List Node → List Char
  | [] => []
  | node :: rest => renderNode parent node ++ renderNodes parent rest

end

/-- The markup of a document's children. -/
def render (nodes : List Node) : List Char := renderNodes "" nodes

end EpubLibrary.Html
