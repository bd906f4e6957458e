import EpubLibrary.Html.Event
import EpubLibrary.Text.Blank

/-!
# Document trees

A `Node` is a text of some kind, or an element with attributes and children. `Node.ofEvents` builds
the children of the document from the events of a markup text: adjacent texts are joined, and blank
text outside preformatted elements is one blank. `parse` reads a markup text as a tree.
-/

namespace EpubLibrary.Html

/-- What a text stands for. -/
inductive TextKind where
  | plain
  | cdata
  | comment
  | instruction
  | doctype
  /-- the text of a ruby annotation or of its parentheses -/
  | ruby
  /-- a script or a style sheet -/
  | code
  | template
  deriving DecidableEq

/-- The value of an attribute in the tree: a text, or a list of words where the attribute is one. -/
inductive Value where
  | text (s : String)
  | words (ws : List String)
  deriving DecidableEq

/-- The words of a list are written with one space between them. -/
def Value.toText : Value → String
  | .text s => s
  | .words ws => " ".intercalate ws

inductive Node where
  | text (kind : TextKind) (content : String)
  | element (name : String) (attributes : List (String × Value)) (children : List Node)

instance : Inhabited Node := ⟨.text .plain ""⟩

/-- The kind of text that stands inside elements of a name. -/
def textKindOf? (name : String) : Option TextKind :=
  if name = "rt" ∨ name = "rp" then some .ruby
  else if name = "style" ∨ name = "script" then some .code
  else if name = "template" then some .template
  else none

/-- Elements that keep their blanks. -/
def keepsBlanks (name : String) : Bool := name = "pre" || name = "textarea"

/-! ## Attributes -/

/-- Is the value of the attribute a list of words? -/
def isWordList (element name : String) : Bool :=
  ["class", "accesskey", "dropzone"].contains name ||
    (match String.ofList (element.toList.map lower) with
    | "a" | "link" => ["rel", "rev"].contains name
    | "td" | "th" => name = "headers"
    | "form" => name = "accept-charset"
    | "object" => name = "archive"
    | "area" => name = "rel"
    | "icon" => name = "sizes"
    | "iframe" => name = "sandbox"
    | "output" => name = "for"
    | _ => false)

/-- The words of a text, split at blanks. -/
def splitWords : List Char → List (List Char)
  | [] => []
  | c :: s =>
    if Text.isBlank c then splitWords s
    else
      match s, splitWords s with
      | d :: _, w :: ws => if Text.isBlank d then [c] :: w :: ws else (c :: w) :: ws
      | _, ws => [c] :: ws

/-- The value of an attribute of an element, as the tree keeps it. -/
def Value.ofText (element name value : String) : Value :=
  if isWordList element name then .words ((splitWords value.toList).map String.ofList)
  else .text value

/-- The attributes of an element, as the tree keeps them. -/
def keptAttributes (element : String) (attributes : Attributes) : List (String × Value) :=
  attributes.map fun a => (a.1, .ofText element a.1 a.2)

/-- The value of an attribute, if it is there. -/
def attribute? (attributes : List (String × Value)) (name : String) : Option Value :=
  (attributes.find? (·.1 = name)).map (·.2)

/-! ## Building -/

/-- An open element: its name, attributes and the children so far, last first. -/
structure Frame where
  name : String
  attributes : List (String × Value)
  children : List Node

/-- The open elements, innermost first, the children of the document, and text not yet placed. -/
structure Growing where
  frames : List Frame
  roots : List Node
  pending : Option (List Char)

namespace Growing

def empty : Growing := ⟨[], [], none⟩

/-- Puts a node behind the children of the innermost element. -/
def append (g : Growing) (node : Node) : Growing :=
  match g.frames with
  | [] => { g with roots := node :: g.roots }
  | f :: rest => { g with frames := { f with children := node :: f.children } :: rest }

/-- Blank text is one line feed or one space, except where blanks are kept. -/
def collapse (g : Growing) (s : List Char) : List Char :=
  if s.all isSpace && !(g.frames.any fun f => keepsBlanks f.name) then
    if s.contains '\n' then ['\n'] else [' ']
  else s

/-- The kind that text takes where the tree grows. -/
def textKind (g : Growing) : TextKind := (g.frames.findSome? (textKindOf? ·.name)).getD .plain

/-- Places the text that is waiting. -/
def settle (g : Growing) : Growing :=
  match g.pending with
  | none => g
  | some s =>
    { g with pending := none }.append (.text g.textKind (String.ofList (g.collapse s)))

/-- Places a text of a kind of its own. -/
def appendSpecial (g : Growing) (kind : TextKind) (s : List Char) : Growing :=
  g.settle.append (.text kind (String.ofList (g.collapse s)))

/-- Ends the innermost element. -/
def close (g : Growing) : Growing :=
  match g.frames with
  | [] => g
  | f :: rest =>
    { g with frames := rest }.append (.element f.name f.attributes f.children.reverse)

def closeMany : Nat → Growing → Growing
  | 0, g => g
  | n + 1, g => closeMany n g.close

def add (g : Growing) : Event → Growing
  | .opening name attributes =>
    let g := g.settle
    { g with frames := ⟨name, keptAttributes name attributes, []⟩ :: g.frames }
  | .closing name =>
    let g := g.settle
    match g.frames.findIdx? (·.name = name) with
    | none => g
    | some i => closeMany (i + 1) g
  | .text s => { g with pending := some (g.pending.getD [] ++ s) }
  | .comment s => g.appendSpecial .comment s
  | .doctype s => g.settle.append (.text .doctype s)

end Growing

/-- The children of the document that events describe. -/
def Node.ofEvents (events : List Event) : List Node :=
  let g := (events.foldl Growing.add .empty).settle
  (Growing.closeMany g.frames.length g).roots.reverse

/-- The children of the document that a markup text describes. -/
def parse (markup : List Char) : List Node := Node.ofEvents (events markup)

end EpubLibrary.Html
