import EpubLibrary.Proofs.Html.Attributes
import EpubLibrary.Proofs.Html.Clean
import EpubLibrary.Proofs.Html.Constructs

/-!
# Trees as the reader builds them

`Around` is what the reader knows at a place of the document. `Fits` holds of nodes at a place where
the reader, given their markup, puts nothing in between and moves nothing.
-/

namespace EpubLibrary.Html

/-- The open elements, innermost first, and which of the outermost elements were seen. -/
structure Around where
  stack : List String
  headSeen : Bool
  bodySeen : Bool

namespace Around

def root : Around := ⟨[], false, false⟩

def enter (a : Around) (name : String) : Around :=
  ⟨name :: a.stack, a.headSeen || name = "head", a.bodySeen || name = "body"⟩

def leave (inner outer : Around) : Around := { inner with stack := outer.stack }

mutual

/-- The place behind a node. -/
def past (a : Around) : Node → Around
  | .text .. => a
  | .element name _ children => ((a.enter name).pastAll children).leave a

def pastAll (a : Around) : List Node → Around
  | [] => a
  | node :: rest => (a.past node).pastAll rest

end

@[simp] theorem past_stack (a : Around) (node : Node) : (a.past node).stack = a.stack := by
  cases node <;> rfl

@[simp] theorem pastAll_stack (a : Around) (nodes : List Node) :
    (a.pastAll nodes).stack = a.stack := by
  induction nodes generalizing a with
  | nil => rfl
  | cons node rest ih => rw [pastAll, ih, past_stack]

theorem pastAll_append (a : Around) (l m : List Node) :
    a.pastAll (l ++ m) = (a.pastAll l).pastAll m := by
  induction l generalizing a with
  | nil => rfl
  | cons node rest ih => rw [List.cons_append, pastAll, pastAll, ih]

/-- Does a tag of the name imply no other one? -/
def isComplete (a : Around) (name : String) : Bool :=
  if name = "html" then true
  else if a.stack.isEmpty then false
  else if name = "body" ∨ name = "head" then true
  else if a.stack.length ≤ 1 ∧ isHeadContent name then a.headSeen || a.bodySeen
  else if name = "noframes" ∨ name = "frame" ∨ name = "frameset" then true
  else a.bodySeen || a.stack.any fun n => n = "body" || n = "head"

/-- Can the element stand only elsewhere? -/
def excludes (a : Around) (name : String) : Bool :=
  (name = "html" && !a.stack.isEmpty) || (name = "head" && a.stack.length ≠ 1) ||
    (name = "body" && a.stack.contains "body")

end Around

def holdsMarkup (name : String) : Bool := !isVoid name && reading name = .markup

namespace Around

/-- May elements and comments stand here? -/
def isOpen (a : Around) : Bool := a.stack.head?.all holdsMarkup

/-- A start tag of the name opens its element here and does nothing else. -/
structure Admits (a : Around) (name : String) : Prop where
  isOpen : a.isOpen = true
  unclosed : ∀ outer, a.stack.head? = some outer → closes name outer = false
  isComplete : a.isComplete name = true
  notExcluded : a.excludes name = false

/-- Text that stays where it is, outside the elements that text starts. -/
def Takes (a : Around) (s : List Char) : Prop :=
  match a.stack.head? with
  | none => s.all isSpace = true
  | some name =>
    if name = "html" then s.all isSpace = true ∨ a.isComplete "p" = true
    else if name = "head" then s.all isSpace = true
    else isVoid name = false

def textKind (a : Around) : TextKind := (a.stack.findSome? textKindOf?).getD .plain

def keeps (a : Around) : Bool := a.stack.any keepsBlanks

/-- Blank text is one character, except where blanks are kept. -/
def Collapsed (a : Around) (s : List Char) : Prop :=
  s.all isSpace = true → a.keeps = false → s = [' '] ∨ s = ['\n']

theorem Takes.append {a : Around} {s t : List Char} (hs : a.Takes s) (ht : a.Takes t) :
    a.Takes (s ++ t) := by
  unfold Takes at hs ht ⊢
  split at hs <;> rename_i top <;> simp only [top] at ht ⊢
  · rw [List.all_append, hs, ht]
    rfl
  · split_ifs at hs ht ⊢
    · rcases hs with hs | complete
      · rcases ht with ht | complete
        · exact .inl (by rw [List.all_append, hs, ht]; rfl)
        · exact .inr complete
      · exact .inr complete
    · rw [List.all_append, hs, ht]
      rfl
    · exact hs

end Around

def TextKind.isShown : TextKind → Bool
  | .plain | .ruby | .code | .template => true
  | _ => false

def TextFits (a : Around) (kind : TextKind) (s : List Char) : Prop :=
  match kind with
  | .comment => a.isOpen = true ∧ CommentText s ∧ a.Collapsed s
  | .doctype => a.isOpen = true ∧ '>' ∉ s
  | .cdata | .instruction => False
  | kind => kind = a.textKind ∧ s ≠ [] ∧ '\x00' ∉ s ∧ a.Takes s ∧ a.Collapsed s

theorem textFits_iff {a : Around} {kind : TextKind} {s : List Char} (shown : kind.isShown = true) :
    TextFits a kind s ↔
      kind = a.textKind ∧ s ≠ [] ∧ '\x00' ∉ s ∧ a.Takes s ∧ a.Collapsed s := by
  cases kind <;> first | exact Iff.rfl | cases shown

/-- The content of an element without markup is at most one text, which does not end it. -/
def RawFits (name : String) : List Node → Prop
  | [] => True
  | [.text _ s] => reading name = .raw → NoEndTag name.toList s.toList
  | _ => False

structure ElementFits (a : Around) (name : String) (attributes : List (String × Value))
    (children : List Node) : Prop where
  named : TagName name
  kept : ∃ raw : Attributes, raw.Readable ∧ attributes = keptAttributes name raw
  admitted : a.Admits name
  void : isVoid name = true → children = []
  raw : reading name ≠ .markup → RawFits name children

mutual

def Node.Fits (a : Around) : Node → Prop
  | .text kind s => TextFits a kind s.toList
  | .element name attributes children =>
    ElementFits a name attributes children ∧ Fits (a.enter name) children

def Fits (a : Around) : List Node → Prop
  | [] => True
  | node :: rest => node.Fits a ∧ Fits (a.past node) rest

end

/-- Nodes fit behind others if they fit at the place behind them. -/
theorem fits_append {a : Around} {l m : List Node} :
    Fits a (l ++ m) ↔ Fits a l ∧ Fits (a.pastAll l) m := by
  induction l generalizing a with
  | nil => simp [Fits, Around.pastAll]
  | cons node rest ih => simp [Fits, Around.pastAll, ih, and_assoc]

end EpubLibrary.Html
