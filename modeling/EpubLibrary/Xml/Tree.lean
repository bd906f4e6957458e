import EpubLibrary.Xml.Prolog

/-!
# Document trees

A `Node` is an element, a text, a comment, a processing instruction or a reference to an entity.
`parse?` reads the root element of a document. It mends what it can: an end tag closes the innermost
element whatever it names, and the end of the text closes all. Names are resolved: a prefix that is
declared stands for its namespace, and one that is not belongs to the name.
-/

namespace EpubLibrary.Xml

/-- The namespaces that prefixes stand for, innermost first; no prefix is the default one. -/
abbrev Scope := List (Option String × String)

/-- The name of an element: its namespace, its prefix if that is declared, and its own name. -/
structure Name where
  space : Option String
  mark : Option String
  own : String
  deriving DecidableEq

inductive Node where
  | element (name : Name) (attributes : List (String × String)) (scope : Scope)
      (children : List Node)
  | text (s : String)
  | comment (s : String)
  | instruction (target : String) (s : String)
  | reference (name : String)

instance : Inhabited Node := ⟨.text ""⟩

/-! ## Namespaces -/

def xmlSpace : String := "http://www.w3.org/XML/1998/namespace"

/-- The prefix and namespace that an attribute declares. -/
def declaration? (written : Qualified × String) : Option (Option String × String) :=
  match written with
  | (⟨none, "xmlns"⟩, space) => some (none, space)
  | (⟨some "xmlns", mark⟩, space) =>
    if space = "" ∨ mark = "xml" ∨ mark = "xmlns" then none else some (some mark, space)
  | _ => none

/-- Is the attribute a declaration of a namespace, good or bad? -/
def isDeclaration (written : Qualified × String) : Bool :=
  written.1 = ⟨none, "xmlns"⟩ || written.1.mark = some "xmlns"

/-- The namespace of a prefix; an empty default is none. -/
def Scope.space? (scope : Scope) (mark : Option String) : Option String :=
  if mark = some "xml" then some xmlSpace
  else
    match scope.lookup mark with
    | some "" => none
    | space => space

/-- The declared namespaces that say something. -/
def Scope.known (scope : Scope) : Scope := scope.filter (·.2 ≠ "")

/-- Resolves the name of an element. -/
def Scope.resolve (scope : Scope) (q : Qualified) : Name :=
  match q.mark with
  | none => ⟨scope.space? none, none, q.name⟩
  | some p =>
    match scope.space? (some p) with
    | some space => ⟨some space, some p, q.name⟩
    | none => ⟨none, none, q.text⟩

/-- The name of an attribute, with its namespace in braces where it has one. -/
def Scope.attributeName (scope : Scope) (q : Qualified) : String :=
  match q.mark with
  | none => q.name
  | some p =>
    match scope.space? (some p) with
    | some space => "\x7b" ++ space ++ "\x7d" ++ q.name
    | none => q.text

/-! ## Building -/

/-- An open element and its children so far, last first. -/
structure Frame where
  written : Qualified
  name : Name
  attributes : List (String × String)
  scope : Scope
  children : List Node

/-- A tree that grows: the open elements, innermost first, or the root when it is closed. -/
structure Growing where
  frames : List Frame
  root : Option Node
  prolog : Prolog

namespace Growing

def unsound (g : Growing) : Growing := { g with prolog := { g.prolog with sound := false } }

/-- Notes an error unless something holds. -/
def expect (g : Growing) (ok : Bool) : Growing := if ok then g else g.unsound

/-- Puts a node behind the children of the innermost element; adjacent texts are one. -/
def append (g : Growing) (node : Node) : Growing :=
  match g.frames with
  | [] => { g with root := some node }
  | f :: rest =>
    let children :=
      match node, f.children with
      | .text s, .text t :: more => .text (t ++ s) :: more
      | .text "", more => more
      | node, more => node :: more
    { g with frames := { f with children := children } :: rest }

def appendText (g : Growing) (s : List Char) : Growing := g.append (.text (String.ofList s))

/-- Opens an element. -/
def push (g : Growing) (tag : StartTag) : Growing :=
  let outer := (g.frames.head?.map (·.scope)).getD []
  let scope : Scope := tag.attributes.filterMap declaration? ++ outer
  let attributes := (tag.attributes.filter (!isDeclaration ·)).map fun (q, v) =>
    (Scope.attributeName scope q, v)
  { g with frames := ⟨tag.name, Scope.resolve scope tag.name, attributes, scope, []⟩ :: g.frames }

/-- Closes the innermost element. -/
def pop (g : Growing) : Growing :=
  match g.frames with
  | [] => g
  | f :: rest =>
    { g with frames := rest }.append (.element f.name f.attributes f.scope f.children.reverse)

/-- Closes as many elements as there are. -/
def popAll : (count : Nat) → Growing → Growing
  | 0, g => g
  | count + 1, g => popAll count g.pop

/-- Places what a reference stands for. After an error no known entity is replaced any more. -/
def refer (g : Growing) : Reference → Growing
  | .char c => g.appendText [c]
  | .broken => g.unsound
  | .entity name =>
    if isKnown g.prolog.entities name then
      if !g.prolog.sound then g
      else
        match predefined? name with
        | some c => g.appendText [c]
        | none => g.append (.reference name)
    else (g.expect g.prolog.isOpen).append (.reference name)

end Growing

/-! ## Content -/

/-- Reads a start tag from behind its bracket. -/
def startTag (g : Growing) (s : List Char) : Growing × List Char :=
  match readStartTag? g.prolog.entities s with
  | none => (g.unsound, s)
  | some (tag, rest) =>
    let g := (g.expect tag.sound).push tag
    if tag.finish = .opened then (g, rest) else (g.pop, rest)

/-- Reads an end tag from behind its slash. -/
def endTag (g : Growing) (s : List Char) : Growing × List Char :=
  let (name, rest) := readName s
  let expected := (g.frames.head?.map fun f => f.written.text).getD ""
  match rest.dropWhile isSpace with
  | '>' :: rest => ((g.expect (String.ofList name = expected)).pop, rest)
  | rest => (g.unsound.pop, rest)

/-- Reads a processing instruction from behind its question mark. -/
def instruction (g : Growing) (s : List Char) : Growing × List Char :=
  match readName s with
  | ([], rest) => (g.unsound, rest)
  | (target, rest) =>
    match splitAt? "?>".toList rest with
    | none => (g.unsound, [])
    | some (body, rest) =>
      let g := g.expect (target ≠ "xml".toList)
      let body := String.ofList (body.dropWhile isSpace)
      (g.append (.instruction (String.ofList target) body), rest)

/-- The place behind the first bracket of `]]>` in a text. -/
def closesSection? : List Char → Option (List Char)
  | [] => none
  | c :: s => if "]]>".toList.isPrefixOf (c :: s) then some s else closesSection? s

/-- Reads text up to markup or a reference. Characters that no document holds are left out; a text
of ASCII alone is lost as far as a mark that ends sections. -/
def characters (g : Growing) (s : List Char) : Growing × List Char :=
  let run := s.takeWhile fun c => c ≠ '<' && c ≠ '&'
  let rest := s.drop run.length
  match closesSection? run with
  | some behind =>
    if run.all (·.toNat < 128) then (g.unsound, behind ++ rest)
    else (g.unsound.appendText (run.filter isChar), rest)
  | none => ((g.expect (run.all isChar)).appendText (run.filter isChar), rest)

/-- Reads the next piece of content. -/
def piece (g : Growing) (s : List Char) : Growing × List Char :=
  match s with
  | '<' :: '?' :: rest => instruction g rest
  | '<' :: '!' :: '[' :: rest =>
    match after? "CDATA[" rest with
    | some body =>
      match splitAt? "]]>".toList body with
      | some (text, rest) => (g.appendText text, rest)
      | none => (g.unsound, [])
    | none => startTag g ('!' :: '[' :: rest)
  | '<' :: '!' :: '-' :: '-' :: rest =>
    match splitAt? "-->".toList rest with
    | some (body, rest) => (g.append (.comment (String.ofList body)), rest)
    | none => (g.unsound, [])
  | '<' :: '/' :: rest => endTag g rest
  | '<' :: rest => startTag g rest
  | '&' :: rest =>
    let (r, rest) := readReference rest
    (g.refer r, rest)
  | _ => characters g s

/-- Reads content until the root element is closed or the text ends. -/
def content : (fuel : Nat) → Growing → List Char → Growing
  | _, g, [] => g
  | 0, g, _ => g
  | fuel + 1, g, s =>
    if g.frames.isEmpty then g
    else
      let (g, rest) := piece g s
      content fuel g rest

/-- The root element of a text. -/
def parseText? (sound : Bool) (s : List Char) : Option Node :=
  let (prolog, rest) := readProlog sound s
  match rest with
  | '<' :: rest =>
    match readStartTag? prolog.entities rest with
    | none => none
    | some _ =>
      let (g, rest) := startTag ⟨[], none, prolog⟩ rest
      let g := content rest.length g rest
      (Growing.popAll g.frames.length g).root
  | _ => none

/-- The root element of a document. -/
def parse? (bytes : Bytes) : Option Node :=
  let (text, sound) := decode bytes
  parseText? sound text

/-! ## Looking into a tree -/

namespace Node

def children : Node → List Node
  | .element _ _ _ children => children
  | _ => []

def isText : Node → Bool
  | .text _ => true
  | _ => false

/-- Is the node an element of a name? -/
def isNamed (node : Node) (space name : String) : Bool :=
  match node with
  | .element n _ _ _ => n.space = some space && n.own = name
  | _ => false

/-- The namespaces that are declared where a node stands. -/
def scope : Node → Scope
  | .element _ _ scope _ => scope
  | _ => []

/-- The first child element of a name. -/
def child? (node : Node) (space name : String) : Option Node :=
  node.children.find? (·.isNamed space name)

/-- The value of an attribute. -/
def attribute? (node : Node) (name : String) : Option String :=
  match node with
  | .element _ attributes _ _ => attributes.lookup name
  | _ => none

/-- The text that a node begins with, if it begins with one; a comment or an instruction is all
text. -/
def leadingText : Node → Option String
  | .element _ _ _ (.text s :: _) => some s
  | .comment s => some s
  | .instruction _ s => some s
  | .reference name => some ("&" ++ name ++ ";")
  | _ => none

mutual

/-- The elements of a name below a node, in the order of the document. -/
def descendants (space name : String) : Node → List Node
  | .element _ _ _ children => descendantsOf space name children
  | _ => []

def descendantsOf (space name : String) : List Node → List Node
  | [] => []
  | node :: rest =>
    (if node.isNamed space name then [node] else []) ++ descendants space name node ++
      descendantsOf space name rest

end

end Node
end EpubLibrary.Xml
