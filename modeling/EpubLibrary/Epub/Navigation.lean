import EpubLibrary.Epub.Toc
import EpubLibrary.Html.Tree
import EpubLibrary.Xml.Tree

/-!
# Navigation documents

`Outline.ofNcx?` reads the navigation map of an NCX: a point with points inside is a heading with
children, and a map without points is a single link that says nothing. `Navigation.ofMarkup?` reads
a navigation document as plain trees; `toc?` reads its table of contents and `hasSoundPages` checks
its list of pages, which must not be nested.
-/

namespace EpubLibrary.Epub

/-! ## Navigation maps -/

def ncxSpace : String := "http://www.daisy.org/z3986/2005/ncx/"

/-- What a point of a navigation map holds. -/
structure Point where
  label : Option String
  target : String
  points : List Outline

def Point.empty : Point := ⟨some "", "", []⟩

/-- A point with points inside is a heading, and one without is a link. -/
def Point.outline (p : Point) : Outline :=
  if p.points.isEmpty then .leaf .link (some p.target) p.label
  else .branch (.leaf .heading (some p.target) p.label) p.points

mutual

/-- Adds what a child of a point says; the last label and the last target count. The text of a label
is that of its first child. -/
def Point.add (p : Point) : Xml.Node → Option Point
  | .element name attributes _ children =>
    if name.space ≠ some ncxSpace then some p
    else if name.own = "navLabel" then
      (children.find? (!·.isText)).map fun first => { p with label := first.leadingText }
    else if name.own = "content" then
      some { p with target := (attributes.lookup "src").getD "" }
    else if name.own = "navPoint" then
      (Point.addAll .empty children).map fun inner =>
        { p with points := p.points ++ [inner.outline] }
    else some p
  | _ => some p

def Point.addAll (p : Point) : List Xml.Node → Option Point
  | [] => some p
  | node :: rest =>
    match p.add node with
    | some p => p.addAll rest
    | none => none

end

/-- The table of contents of an NCX. -/
def Outline.ofNcx? (root : Xml.Node) : Option Outline := do
  let map ← root.child? ncxSpace "navMap"
  let all ← Point.addAll .empty map.children
  pure (if all.points.isEmpty then all.outline else .group all.points)

/-! ## Navigation documents -/

/-- The nodes of a navigation document and the directory that its references start from. -/
structure Navigation where
  nodes : List Html.Tree
  base : List Char

namespace Navigation

/-- Reads a document; one without elements is none. -/
def ofMarkup? (name : String) (bytes : Bytes) : Option Navigation :=
  let text :=
    match Text.Utf8.decodeReplacing bytes with
    | '\ufeff' :: s => s
    | s => s
  let nodes := Html.Tree.ofMarkup text
  if nodes.any (·.isElement) then some ⟨nodes, Path.parentText name.toList⟩ else none

/-- The path that a link refers to. -/
def reference? (base : List Char) (link : Html.Tree) : Option String :=
  (link.attribute? "href").map fun href =>
    String.ofList (Path.normalText (Path.joinText base href.toList))

/-- The entry of an item: a heading over the entries of its list, if it has one, or a link. -/
def entry? (base : List Char) (item : List Html.Tree) (inner : Option (List Outline)) :
    Option (List Outline) :=
  let link := item.find? (·.isNamed "a")
  match inner, link with
  | none, none => some []
  | none, some link =>
    (reference? base link).map fun href => [.leaf .link (some href) (some link.textContent)]
  | some entries, link => do
    let title := (item.find? (·.isPart)).map (·.textContent)
    let href ← (match link with
      | some link => reference? base link
      | none => some "")
    pure [.branch (.leaf .heading (some href) title) entries]

mutual

/-- The entries of the items of a list. -/
def entries? (base : List Char) : List Html.Tree → Option (List Outline)
  | [] => some []
  | node :: rest => do
    let here ← ofItem? base node
    let more ← entries? base rest
    pure (here ++ more)

/-- The entries that a node of a list gives. -/
def ofItem? (base : List Char) : Html.Tree → Option (List Outline)
  | .element name _ children =>
    if name = "li" then
      match firstList? base children with
      | none => entry? base children none
      | some none => none
      | some (some inner) => entry? base children (some inner)
    else some []
  | _ => some []

/-- The entries of the first list among nodes, if there is one and if it can be read. -/
def firstList? (base : List Char) : List Html.Tree → Option (Option (List Outline))
  | [] => none
  | node :: rest =>
    match ofList? base node with
    | some found => some found
    | none => firstList? base rest

/-- The entries of a node that is a list. -/
def ofList? (base : List Char) : Html.Tree → Option (Option (List Outline))
  | .element name _ children => if name = "ol" then some (entries? base children) else none
  | _ => none

end

/-- The first navigation of a kind. -/
def find? (n : Navigation) (kind : String) : Option Html.Tree :=
  (Html.Tree.namedIn "nav" n.nodes).find? fun node => node.attributes.any (·.2 = kind)

/-- The entries of the list in a navigation. -/
def list? (n : Navigation) (node : Html.Tree) : Option (List Outline) := do
  let list ← node.child? "ol"
  entries? n.base list.children

/-- The table of contents of a document. -/
def toc? (n : Navigation) : Option Outline := do
  let node ← n.find? "toc"
  let entries ← n.list? node
  pure (.group entries)

/-- Is there no list of pages, or one that can be read and is flat? -/
def hasSoundPages (n : Navigation) : Bool :=
  match n.find? "page-list" with
  | none => true
  | some node => (n.list? node).any fun pages => pages.all fun page => !page.isBranch

end Navigation
end EpubLibrary.Epub
