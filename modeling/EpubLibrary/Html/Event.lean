import EpubLibrary.Html.Token

/-!
# Events of a markup text

`events` reads a markup text as a sequence of starts and ends of elements, texts, comments and
document types. Missing elements are put in: everything is inside `html`, and either in `head` or in
`body`. The start of an element may end open ones, and an end tag ends every open element inside its
own.
-/

namespace EpubLibrary.Html

inductive Event where
  | opening (name : String) (attributes : Attributes)
  | closing (name : String)
  | text (content : List Char)
  | comment (content : List Char)
  | doctype (content : String)

/-- Which of the outermost elements were opened so far. -/
structure Builder where
  /-- names of the open elements, innermost first -/
  stack : List String
  headSeen : Bool
  bodySeen : Bool
  /-- start tags of outermost elements that were dropped and whose end tags are to be dropped -/
  dropped : Nat
  /-- the events so far, last first -/
  emitted : List Event

namespace Builder

def empty : Builder := ⟨[], false, false, 0, []⟩

def emit (b : Builder) (e : Event) : Builder := { b with emitted := e :: b.emitted }

/-- Opens an element. -/
def push (b : Builder) (name : String) (attributes : Attributes) : Builder :=
  { b with
    stack := name :: b.stack
    headSeen := b.headSeen || name = "head"
    bodySeen := b.bodySeen || name = "body"
    emitted := .opening name attributes :: b.emitted }

/-- Ends the innermost element. -/
def pop (b : Builder) : Builder :=
  match b.stack with
  | [] => b
  | name :: rest => { b with stack := rest, emitted := .closing name :: b.emitted }

/-- Ends the innermost `n` elements. -/
def popMany : Nat → Builder → Builder
  | 0, b => b
  | n + 1, b => popMany n b.pop

/-- Ends the open elements that the start of an element ends. -/
def autoClose (b : Builder) (name : String) : Builder :=
  popMany (b.stack.takeWhile (closes name ·)).length b

/-- Puts in the elements that must be around an element of the given name. -/
def imply (b : Builder) (name : String) : Builder :=
  if name = "html" then b
  else
    let b := if b.stack.isEmpty then b.push "html" [] else b
    if name = "body" ∨ name = "head" then b
    else if b.stack.length ≤ 1 ∧ isHeadContent name then
      if b.headSeen || b.bodySeen then b else b.push "head" []
    else if name = "noframes" ∨ name = "frame" ∨ name = "frameset" then b
    else if b.bodySeen || b.stack.any (fun n => n = "body" || n = "head") then b
    else b.push "body" []

/-- Text below no element, `html` or `head` keeps its leading blanks there; the rest starts a
paragraph's context. -/
def addText (b : Builder) (content : List Char) : Builder :=
  if content.isEmpty then b
  else
    match b.stack.head? with
    | some name =>
      if name = "html" ∨ name = "head" then outer b content else b.emit (.text content)
    | none => outer b content
where
  outer (b : Builder) (content : List Char) : Builder :=
    let blanks := content.takeWhile isSpace
    let rest := content.dropWhile isSpace
    let b := if blanks.isEmpty then b else b.emit (.text blanks)
    if rest.isEmpty then b
    else
      let b := if b.stack.head? = some "head" then b.autoClose "p" else b
      (b.imply "p").emit (.text rest)

/-- Is the start of the element dropped, because it can stand only once? -/
def isDropped (b : Builder) (name : String) : Bool :=
  (name = "html" && !b.stack.isEmpty) || (name = "head" && b.stack.length ≠ 1) ||
    (name = "body" && b.stack.contains "body")

/-- A start tag: what it ends, what it implies, and the element unless it is dropped. -/
def start (b : Builder) (tag : Tag) : Builder :=
  let b := (b.autoClose tag.name).imply tag.name
  if b.isDropped tag.name then { b with dropped := b.dropped + 1 }
  else
    let b := b.push tag.name tag.attributes
    match tag.ending with
    | .selfClosed => b.pop
    | .closed => if isVoid tag.name then b.pop else b
    | .unfinished => { b with stack := b.stack.drop 1 }

/-- How many elements an end tag ends: none if its element is not open or out of reach. -/
def reach (name : String) : List String → Option Nat
  | [] => none
  | open' :: rest =>
    if open' = name then some 1
    else if endRank name < endRank open' then none
    else (reach name rest).map (· + 1)

/-- An end tag. -/
def finish (b : Builder) (name : String) : Builder :=
  if 0 < b.dropped ∧ (name = "html" ∨ name = "body" ∨ name = "head") then
    { b with dropped := b.dropped - 1 }
  else
    match reach name b.stack with
    | none => b
    | some n => popMany n b

end Builder

/-- How far the document is: before anything, before the document type, behind it, inside. -/
inductive Stage where
  | start
  | beforeType
  | afterType
  | content
  deriving DecidableEq

/-- Emits a text unless there is none. -/
def Builder.emitText (b : Builder) (content : List Char) : Builder :=
  if content.isEmpty then b else b.emit (.text content)

/-- The text of an element that holds no markup, behind its start tag. -/
def readRaw (b : Builder) (name : String) (s : List Char) : Builder × List Char :=
  match reading name with
  | .markup => (b, s)
  | .replaceable =>
    let n := rawLength name.toList s
    (b.emitText (decodeReferences false ((s.take n).map showNull)), s.drop n)
  | .raw =>
    let n := rawLength name.toList s
    (b.emitText ((s.take n).map showNull), s.drop n)
  | .script =>
    let n := scriptLength .plain s
    (b.emitText ((s.take n).map showNull), s.drop n)
  | .verbatim => (b.emitText (s.map showNull), [])

/-- Reads one construct of the document. -/
def step (stage : Stage) (b : Builder) (s : List Char) : Stage × Builder × List Char :=
  let s := if stage = .content then s else skipSpace s
  match s with
  | '<' :: '!' :: rest =>
    if startsWithWord "doctype".toList rest then
      let (d, after) := Doctype.read (rest.drop 7)
      let next := if stage = .start ∨ stage = .beforeType then .afterType else .content
      (next, b.emit (.doctype d.toText), after)
    else
      match rest with
      | '-' :: '-' :: more =>
        let (body, after) := readComment more
        (stay stage, b.emit (.comment body), after)
      | _ =>
        let (body, after) := readBogusComment rest
        (.content, b.emit (.comment body), after)
  | '<' :: '?' :: rest =>
    let (body, after) := readBogusComment ('?' :: rest)
    (stay stage, b.emit (.comment body), after)
  | '<' :: '/' :: '>' :: rest => (.content, b, rest)
  | '<' :: '/' :: c :: rest =>
    if isLetter c then
      let (tag, after) := Tag.read (c :: rest)
      (.content, b.finish tag.name, after)
    else
      let (body, after) := readBogusComment (c :: rest)
      (.content, b.emit (.comment body), after)
  | '<' :: c :: rest =>
    if isLetter c then
      let (tag, after) := Tag.read (c :: rest)
      let opened := b.start tag
      if opened.stack.head? = some tag.name ∧ tag.ending = .closed ∧ reading tag.name ≠ .markup then
        let (b, after) := readRaw opened tag.name after
        (.content, b, after)
      else (.content, opened, after)
    else plain b s
  | _ => plain b s
where
  stay : Stage → Stage
    | .start => .beforeType
    | stage => stage
  plain (b : Builder) (s : List Char) : Stage × Builder × List Char :=
    let run := s.take 1 ++ (s.drop 1).takeWhile (· ≠ '<')
    let shown := decodeReferences false (run.map showNull)
    (.content, b.addText shown, (s.drop 1).dropWhile (· ≠ '<'))

/-- Reads constructs to the end of the text; every step takes at least one character. -/
def readAll : (fuel : Nat) → Stage → Builder → List Char → Builder
  | 0, _, b, _ => b
  | _, _, b, [] => b
  | fuel + 1, stage, b, s =>
    let (stage, b, s) := step stage b s
    readAll fuel stage b s

/-- The events of a markup text, every element ended. -/
def events (markup : List Char) : List Event :=
  let s := unifyLineEnds markup
  let b := readAll (s.length + 1) .start .empty s
  (Builder.popMany b.stack.length b).emitted.reverse

end EpubLibrary.Html
