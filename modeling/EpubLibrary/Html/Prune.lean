import EpubLibrary.Html.Node

namespace EpubLibrary.Html

/-- Elements that matter only through their content. -/
def isPrunable (name : String) : Bool :=
  ["p", "div", "span", "a", "em", "i", "strong", "b", "u", "s", "small", "big", "sub", "sup",
    "font", "blockquote", "section", "article", "aside", "center", "h1", "h2", "h3", "h4", "h5",
    "h6", "li", "ul", "ol", "dl", "dt", "dd", "pre", "code", "cite", "q", "abbr", "label"].contains
    name

/-- Can a fragment reference lead to the element? -/
def isTarget (name : String) (attributes : List (String × Value)) : Bool :=
  (attribute? attributes "id").any (·.toText ≠ "") ||
    (name = "a" && (attribute? attributes "name").any (·.toText ≠ ""))

/-- An element is a target by an identifier that is not empty or, if it is an anchor, by such a
name. -/
theorem isTarget_iff {name : String} {attributes : List (String × Value)} :
    isTarget name attributes = true ↔
      ∃ key value, attribute? attributes key = some value ∧ value.toText ≠ "" ∧
        (key = "id" ∨ name = "a" ∧ key = "name") := by
  have named (key : String) : (attribute? attributes key).any (·.toText ≠ "") = true ↔
      ∃ value, attribute? attributes key = some value ∧ value.toText ≠ "" := by
    simp [Option.any_eq_true]
  rw [isTarget, Bool.or_eq_true, Bool.and_eq_true, named, named, decide_eq_true_eq]
  constructor
  · rintro (⟨value, found, some⟩ | ⟨anchor, value, found, some⟩)
    · exact ⟨_, value, found, some, .inl rfl⟩
    · exact ⟨_, value, found, some, .inr ⟨anchor, rfl⟩⟩
  · rintro ⟨key, value, found, some, rfl | ⟨anchor, rfl⟩⟩
    · exact .inl ⟨value, found, some⟩
    · exact .inr ⟨anchor, value, found, some⟩

def isElement : Node → Bool
  | .element .. => true
  | .text .. => false

/-- Is the node text that shows nothing? Comments and the like are never shown. -/
def isBlankText : Node → Bool
  | .text kind s => (kind ≠ .plain && kind ≠ .cdata) || Text.allBlank s.toList
  | .element .. => false

/-- Does an element with these children render nothing and serve no reference? -/
def isRemovable (name : String) (attributes : List (String × Value)) (children : List Node) :
    Bool :=
  isPrunable name && !isTarget name attributes && children.all isBlankText

mutual

/-- The node without what renders nothing, or nothing at all. -/
def pruneNode : Node → Option Node
  | .text kind s => some (.text kind s)
  | .element name attributes children =>
    let kept := pruneNodes children
    if isRemovable name attributes kept then none else some (.element name attributes kept)

def pruneNodes : List Node → List Node
  | [] => []
  | node :: rest =>
    match pruneNode node with
    | some kept => kept :: pruneNodes rest
    | none => pruneNodes rest

end

def prune (nodes : List Node) : List Node := pruneNodes nodes

end EpubLibrary.Html
