import EpubLibrary.Html.Event

namespace EpubLibrary.Html

inductive Tree where
  | element (name : String) (attributes : Attributes) (children : List Tree)
  | text (s : List Char)
  | comment (s : List Char)

instance : Inhabited Tree := ⟨.text []⟩

namespace Tree

/-- An open element: its name, attributes and the children so far, last first. -/
abbrev Frame := String × Attributes × List Tree

/-- Puts a node behind the last one, in the innermost open element or at the top. -/
def put (node : Tree) : List Frame → List Tree → List Frame × List Tree
  | [], roots => ([], node :: roots)
  | (name, attributes, children) :: rest, roots =>
    ((name, attributes, node :: children) :: rest, roots)

/-- Ends the innermost element. -/
def close : List Frame → List Tree → List Frame × List Tree
  | [], roots => ([], roots)
  | (name, attributes, children) :: rest, roots =>
    put (.element name attributes children.reverse) rest roots

/-- Builds the top-level nodes from events; elements that are never ended end at the end. -/
def build : (fuel : Nat) → List Frame → List Tree → List Event → List Tree
  | _, [], roots, [] => roots.reverse
  | 0, _, roots, _ => roots.reverse
  | fuel + 1, frames, roots, [] =>
    let (frames, roots) := close frames roots
    build fuel frames roots []
  | fuel + 1, frames, roots, e :: rest =>
    match e with
    | .opening name attributes => build fuel ((name, attributes, []) :: frames) roots rest
    | .closing _ =>
      let (frames, roots) := close frames roots
      build fuel frames roots rest
    | .text s =>
      let (frames, roots) := put (.text s) frames roots
      build fuel frames roots rest
    | .comment s =>
      let (frames, roots) := put (.comment s) frames roots
      build fuel frames roots rest
    | .doctype _ => build fuel frames roots rest

/-- The top-level nodes of a markup text. -/
def ofMarkup (markup : List Char) : List Tree :=
  let es := events markup
  build (2 * es.length + 1) [] [] es

def children : Tree → List Tree
  | .element _ _ children => children
  | _ => []

def isElement : Tree → Bool
  | .element .. => true
  | _ => false

/-- Is the node an element of a name? -/
def isNamed (name : String) : Tree → Bool
  | .element n _ _ => n = name
  | _ => false

def attributes : Tree → Attributes
  | .element _ attributes _ => attributes
  | _ => []

/-- The value of an attribute. -/
def attribute? (tree : Tree) (name : String) : Option String := tree.attributes.lookup name

/-- The first child element of a name. -/
def child? (tree : Tree) (name : String) : Option Tree := tree.children.find? (isNamed name)

/-- Is the node an element or a comment? -/
def isPart : Tree → Bool
  | .text _ => false
  | _ => true

mutual

/-- All text inside an element. -/
def textInside : Tree → List Char
  | .element _ _ children => textOf children
  | .text s => s
  | .comment _ => []

def textOf : List Tree → List Char
  | [] => []
  | node :: rest => textInside node ++ textOf rest

end

/-- The text of a node: all text inside an element, or the text of a comment. -/
def textContent : Tree → String
  | .comment s => String.ofList s
  | tree => String.ofList (textInside tree)

mutual

/-- The elements of a name among nodes and below them, in the order of the document. -/
def named (name : String) : Tree → List Tree
  | .element n attributes children =>
    (if n = name then [.element n attributes children] else []) ++ namedIn name children
  | _ => []

def namedIn (name : String) : List Tree → List Tree
  | [] => []
  | node :: rest => named name node ++ namedIn name rest

end

end Tree
end EpubLibrary.Html
