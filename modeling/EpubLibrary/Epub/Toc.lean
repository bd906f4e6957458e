import EpubLibrary.Path
import EpubLibrary.Text.Percent
import EpubLibrary.Text.Blank
import EpubLibrary.Epub.Error

namespace EpubLibrary.Epub

inductive LeafKind where
  | link
  | heading
  deriving DecidableEq

/-- A node of a navigation tree. -/
inductive Outline where
  | leaf (kind : LeafKind) (href title : Option String)
  /-- an entry without title and reference -/
  | blank
  | branch (head : Outline) (children : List Outline)
  | group (entries : List Outline)

instance : Inhabited Outline := ⟨.blank⟩

namespace Outline

mutual

/-- The entries of a node: a branch has its head, which is not taken apart, and the entries of its
children. -/
def entriesOf : Outline → List Outline
  | .leaf kind href title => [.leaf kind href title]
  | .blank => [.blank]
  | .branch head children => head :: flatten children
  | .group entries => flatten entries

/-- The entries of a list of nodes, in preorder. -/
def flatten : List Outline → List Outline
  | [] => []
  | node :: rest => entriesOf node ++ flatten rest

end

/-- The list that a tree stands for. -/
def roots : Outline → List Outline
  | .group entries => entries
  | node => [node]

def isBranch : Outline → Bool
  | .branch .. => true
  | _ => false

/-- The title of an entry, without the blanks around it. -/
def title : Outline → String
  | .leaf _ _ (some t) => Text.stripText t
  | _ => ""

theorem title_eq_iff {kind : LeafKind} {href : Option String} {text s : String} :
    title (.leaf kind href (some text)) = s ↔ Text.Stripped text.toList s.toList :=
  Text.stripText_eq_iff

def href : Outline → String
  | .leaf _ (some h) _ => h
  | _ => ""

end Outline

/-- The path that a reference leads to: what stands before the first `#`, decoded. -/
def targetPath (href : String) : List Char := Text.Percent.decode (href.toList.takeWhile (· ≠ '#'))

/-- Is one path the end of the other, from a slash on? -/
def endsAlike (target name : List Char) : Bool :=
  ('/' :: target).isSuffixOf name || ('/' :: name).isSuffixOf target

/-- The position of the item that a reference leads to, by the names of the items. -/
def target? (href : String) (names : List String) : Option Nat :=
  let path := targetPath href
  if path = [] then none
  else
    let target := (Path.normalText path).dropWhile (· = '/')
    let names := names.map fun n => Path.normalText n.toList
    match names.findIdx? (· = target) with
    | some i => some i
    | none => names.findIdx? (endsAlike target)

/-- Pairs each titled entry that refers somewhere with its spine position. -/
def resolveEntries (names : List String) : List Outline → Except Fault (List (Nat × String))
  | [] => .ok []
  | entry :: rest =>
    if entry.title = "" ∨ entry.href = "" then resolveEntries names rest
    else
      match target? entry.href names with
      | none => .error (.brokenReference entry.href)
      | some i =>
        match resolveEntries names rest with
        | .error e => .error e
        | .ok more => .ok ((i, entry.title) :: more)

/-- The table of contents of a navigation tree. -/
def extractToc (identifier : String) (toc : Outline) (names : List String) :
    Except ArchiveError (List (Nat × String)) :=
  (resolveEntries names (Outline.flatten toc.roots)).mapError (⟨·, declared identifier⟩)

end EpubLibrary.Epub
