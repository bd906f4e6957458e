import EpubLibrary.Proofs.Html.Fits
import Mathlib.Data.List.TakeWhile

/-!
# What a builder has built

`Builder.growing` is the tree that the events of a builder have grown so far. `Stands` ties a
builder to the place it is at and to that tree.
-/

namespace EpubLibrary.Html

/-! ## The growing tree -/

namespace Growing

def names (g : Growing) : List String := g.frames.map (·.name)

def appendAll (g : Growing) (nodes : List Node) : Growing := nodes.foldl append g

@[simp] theorem names_append (g : Growing) (node : Node) : (g.append node).names = g.names := by
  unfold append names
  split <;> simp [*]

@[simp] theorem pending_append (g : Growing) (node : Node) :
    (g.append node).pending = g.pending := by
  unfold append
  split <;> rfl

@[simp] theorem names_appendAll (g : Growing) (nodes : List Node) :
    (g.appendAll nodes).names = g.names := by
  induction nodes generalizing g with
  | nil => rfl
  | cons node rest ih => exact (ih _).trans (names_append g node)

theorem settle_eq_self {g : Growing} (h : g.pending = none) : g.settle = g := by
  rw [settle, h]

@[simp] theorem names_settle (g : Growing) : g.settle.names = g.names := by
  unfold settle
  split
  · rfl
  · exact names_append _ _

/-- Nodes that were appended leave the same elements open. -/
theorem names_of_grown {g g' : Growing} {nodes : List Node}
    (grown : g'.settle = g.settle.appendAll nodes) : g'.names = g.names := by
  rw [← names_settle g', grown, names_appendAll, names_settle]

@[simp] theorem pending_settle (g : Growing) : g.settle.pending = none := by
  unfold settle
  split
  · next h => exact h
  · exact pending_append _ _

theorem appendAll_frame (f : Frame) (frames : List Frame) (roots nodes : List Node) :
    appendAll ⟨f :: frames, roots, none⟩ nodes =
      ⟨{ f with children := nodes.reverse ++ f.children } :: frames, roots, none⟩ := by
  induction nodes generalizing f with
  | nil => rfl
  | cons node rest ih =>
    have step : appendAll ⟨f :: frames, roots, none⟩ (node :: rest) =
        appendAll ⟨{ f with children := node :: f.children } :: frames, roots, none⟩ rest := rfl
    rw [step, ih]
    simp

theorem appendAll_empty (nodes : List Node) :
    appendAll empty nodes = ⟨[], nodes.reverse, none⟩ := by
  have general (roots : List Node) :
      appendAll ⟨[], roots, none⟩ nodes = ⟨[], nodes.reverse ++ roots, none⟩ := by
    induction nodes generalizing roots with
    | nil => rfl
    | cons node rest ih =>
      have step : appendAll ⟨[], roots, none⟩ (node :: rest) =
          appendAll ⟨[], node :: roots, none⟩ rest := rfl
      rw [step, ih]
      simp
  exact (general []).trans (by rw [List.append_nil])

theorem textKind_eq {g : Growing} {a : Around} (h : g.names = a.stack) :
    g.textKind = a.textKind := by
  rw [textKind, Around.textKind, ← h, names, List.findSome?_map]
  rfl

theorem collapse_eq {g : Growing} {a : Around} (h : g.names = a.stack) (s : List Char) :
    g.collapse s =
      if s.all isSpace && !a.keeps then if s.contains '\n' then ['\n'] else [' '] else s := by
  rw [collapse, Around.keeps, ← h, names, List.any_map]
  rfl

/-- Text that is collapsed already stays. -/
theorem collapse_eq_self {g : Growing} {a : Around} (h : g.names = a.stack) {s : List Char}
    (collapsed : a.Collapsed s) : g.collapse s = s := by
  rw [collapse_eq h]
  split
  · next blank =>
    rw [Bool.and_eq_true, Bool.not_eq_true'] at blank
    rcases collapsed blank.1 blank.2 with rfl | rfl <;> rfl
  · rfl

theorem collapsed_collapse {g : Growing} {a : Around} (h : g.names = a.stack) (s : List Char) :
    a.Collapsed (g.collapse s) := by
  intro blank loses
  rw [collapse_eq h] at blank ⊢
  split
  · split <;> simp
  · next other =>
    rw [if_neg other] at blank
    exact absurd (by simp [blank, loses]) other

/-- Opening an element and closing it again appends it with what was appended in between. -/
theorem close_appendAll {g : Growing} (h : g.pending = none) (name : String)
    (attributes : List (String × Value)) (nodes : List Node) :
    (({ g with frames := ⟨name, attributes, []⟩ :: g.frames } : Growing).appendAll nodes).close =
      g.append (.element name attributes nodes) := by
  obtain ⟨frames, roots, pending⟩ := g
  obtain rfl : pending = none := h
  simp [appendAll_frame, close]

end Growing

/-! ## What events grow -/

namespace Growing

variable {g : Growing} {a : Around}

theorem add_closing {name : String} {outer : List String} (h : g.names = name :: outer) :
    g.add (.closing name) = g.settle.close := by
  have named : g.settle.names = name :: outer := by rw [names_settle, h]
  cases frames : g.settle.frames with
  | nil => simp [names, frames] at named
  | cons f rest =>
    rw [names, frames, List.map_cons] at named
    have same : f.name = name := (List.cons.inj named).1
    simp [add, frames, List.findIdx?_cons, same, closeMany]

theorem settle_add_text (pending : g.pending = none) (named : g.names = a.stack) {s : String}
    (collapsed : a.Collapsed s.toList) :
    (g.add (.text s.toList)).settle = g.append (.text a.textKind s) := by
  have same : ({ g with pending := none } : Growing) = g := by rw [← pending]
  have kept : String.ofList (g.collapse s.toList) = s := by
    rw [collapse_eq_self named collapsed, String.ofList_toList]
  rw [← textKind_eq named]
  conv => rhs; rw [← kept]
  rw [add, pending, settle]
  dsimp only [Option.getD_none, List.nil_append]
  congr 1

theorem add_comment (named : g.names = a.stack) {s : String} (collapsed : a.Collapsed s.toList) :
    g.add (.comment s.toList) = g.settle.append (.text .comment s) := by
  rw [add, appendSpecial, collapse_eq_self named collapsed, String.ofList_toList]

/-- The frame of an element whose attributes are settled. -/
theorem add_opening {name : String} {attributes : List (String × Value)}
    (settled : keptAttributes name (writtenAttributes name attributes) = attributes) :
    g.add (.opening name (writtenAttributes name attributes)) =
      { g.settle with frames := ⟨name, attributes, []⟩ :: g.settle.frames } := by
  rw [add, settled]

@[simp] theorem names_add_opening (name : String) (attributes : Attributes) :
    (g.add (.opening name attributes)).names = name :: g.names := by
  rw [add, ← names_settle g]
  rfl

@[simp] theorem pending_add_opening (name : String) (attributes : Attributes) :
    (g.add (.opening name attributes)).pending = none := by
  rw [add]
  exact pending_settle g

/-- The end of an element whose children were appended behind its start. -/
theorem add_closing_children {name : String} {attributes : List (String × Value)}
    {children : List Node} {inner : Growing}
    (settled : keptAttributes name (writtenAttributes name attributes) = attributes)
    (grown : inner.settle =
      (g.add (.opening name (writtenAttributes name attributes))).settle.appendAll children) :
    inner.add (.closing name) = g.settle.append (.element name attributes children) := by
  have named : inner.names = name :: g.names := by
    rw [names_of_grown grown, names_add_opening]
  rw [add_closing named, grown, settle_eq_self (pending_add_opening _ _), add_opening settled,
    close_appendAll (pending_settle g)]

end Growing

/-! ## The place of a builder -/

namespace Builder

def around (b : Builder) : Around := ⟨b.stack, b.headSeen, b.bodySeen⟩

/-- The tree that the events so far have grown. -/
def growing (b : Builder) : Growing := b.emitted.reverse.foldl Growing.add .empty

@[simp] theorem growing_emit (b : Builder) (e : Event) : (b.emit e).growing = b.growing.add e := by
  simp [growing, emit, List.foldl_append]

@[simp] theorem around_emit (b : Builder) (e : Event) : (b.emit e).around = b.around := rfl

@[simp] theorem growing_push (b : Builder) (name : String) (attributes : Attributes) :
    (b.push name attributes).growing = b.growing.add (.opening name attributes) := by
  simp [growing, push, List.foldl_append]

@[simp] theorem around_push (b : Builder) (name : String) (attributes : Attributes) :
    (b.push name attributes).around = b.around.enter name := rfl

theorem growing_pop {b : Builder} {name : String} {rest : List String}
    (h : b.stack = name :: rest) :
    b.pop.growing = b.growing.add (.closing name) := by
  rw [pop, h]
  simp [growing, List.foldl_append]

theorem around_pop {b : Builder} {name : String} {rest : List String} (h : b.stack = name :: rest) :
    b.pop.around = ⟨rest, b.headSeen, b.bodySeen⟩ := by
  rw [pop, h]
  rfl

@[simp] theorem dropped_pop (b : Builder) : b.pop.dropped = b.dropped := by
  unfold pop
  split <;> rfl

theorem autoClose_eq_self {b : Builder} {name : String}
    (h : ∀ outer, b.stack.head? = some outer → closes name outer = false) :
    b.autoClose name = b := by
  unfold autoClose
  cases hs : b.stack with
  | nil => rfl
  | cons outer rest =>
    rw [List.takeWhile_cons_of_neg (by simp [h outer (by simp [hs])])]
    rfl

/-- Where a tag implies no other one, nothing is put in. -/
theorem imply_eq_self {b : Builder} {name : String} (h : b.around.isComplete name = true) :
    b.imply name = b := by
  simp only [Around.isComplete, around] at h
  unfold imply
  split_ifs at h ⊢ <;> first | rfl | simp_all

theorem isDropped_eq (b : Builder) (name : String) :
    b.isDropped name = b.around.excludes name := rfl

end Builder

/-- The builder is at a place, has grown a tree, and has no end tags to drop. -/
structure Stands (b : Builder) (a : Around) (g : Growing) : Prop where
  around : b.around = a
  growing : b.growing = g
  dropped : b.dropped = 0

namespace Stands

variable {b : Builder} {a : Around} {g : Growing}

theorem stack_eq (h : Stands b a g) : b.stack = a.stack := congrArg Around.stack h.around

/-- An event that is no tag. -/
theorem emit (h : Stands b a g) (e : Event) : Stands (b.emit e) a (g.add e) :=
  ⟨h.around, by rw [Builder.growing_emit, h.growing], h.dropped⟩

theorem push (h : Stands b a g) (name : String) (attributes : Attributes) :
    Stands (b.push name attributes) (a.enter name) (g.add (.opening name attributes)) :=
  ⟨by rw [Builder.around_push, h.around], by rw [Builder.growing_push, h.growing], h.dropped⟩

theorem pop (h : Stands b a g) {name : String} {rest : List String} (hs : a.stack = name :: rest) :
    Stands b.pop { a with stack := rest } (g.add (.closing name)) := by
  have stack : b.stack = name :: rest := h.stack_eq.trans hs
  refine ⟨?_, by rw [Builder.growing_pop stack, h.growing], by rw [Builder.dropped_pop, h.dropped]⟩
  rw [Builder.around_pop stack, ← h.around]
  rfl

/-- The start of an admitted element does nothing but open it. -/
theorem start (h : Stands b a g) {tag : Tag} (admitted : a.Admits tag.name) :
    b.start tag =
      match tag.ending with
      | .selfClosed => (b.push tag.name tag.attributes).pop
      | .closed =>
        if isVoid tag.name then (b.push tag.name tag.attributes).pop
        else b.push tag.name tag.attributes
      | .unfinished =>
        { b.push tag.name tag.attributes with stack := b.stack } := by
  have closed : b.autoClose tag.name = b :=
    Builder.autoClose_eq_self (h.stack_eq ▸ admitted.unclosed)
  have implied : b.imply tag.name = b :=
    Builder.imply_eq_self (h.around ▸ admitted.isComplete)
  have kept : b.isDropped tag.name = false := by
    rw [Builder.isDropped_eq, h.around]
    exact admitted.notExcluded
  rw [Builder.start]
  simp only [closed, implied, kept]
  cases tag.ending <;> rfl

/-- The end tag of the innermost element ends it. -/
theorem finish (h : Stands b a g) {name : String} {rest : List String}
    (hs : a.stack = name :: rest) :
    Stands (b.finish name) { a with stack := rest } (g.add (.closing name)) := by
  have stack : b.stack = name :: rest := h.stack_eq.trans hs
  have popped : b.finish name = b.pop := by
    rw [Builder.finish, if_neg (by simp [h.dropped]), stack]
    simp [Builder.reach, Builder.popMany]
  rw [popped]
  exact h.pop hs

theorem emitText (h : Stands b a g) {s : List Char} (hs : s ≠ []) :
    Stands (b.emitText s) a (g.add (.text s)) := by
  rw [Builder.emitText, if_neg (by simpa using hs)]
  exact h.emit _

/-- Text that is taken where it stands stays one text, even if its blanks are read first. -/
theorem addText (h : Stands b a g) {s : List Char} (hs : s ≠ []) (takes : a.Takes s) :
    Stands (b.addText s) a (g.add (.text s)) := by
  have outer (complete : s.all isSpace = true ∨
      (a.isComplete "p" = true ∧ a.stack.head? ≠ some "head")) :
      Stands (Builder.addText.outer b s) a (g.add (.text s)) := by
    have whole : s.takeWhile isSpace ++ s.dropWhile isSpace = s := List.takeWhile_append_dropWhile
    unfold Builder.addText.outer
    by_cases noBlanks : s.takeWhile isSpace = []
    · have rest : s.dropWhile isSpace = s := by rwa [noBlanks, List.nil_append] at whole
      have notBlank : ¬ s.all isSpace = true := fun blank =>
        hs (rest ▸ List.dropWhile_eq_nil_iff.2 (List.all_eq_true.1 blank))
      obtain ⟨complete, notHead⟩ := complete.resolve_left notBlank
      simp only [noBlanks, rest, List.isEmpty_nil, if_true, List.isEmpty_iff, hs, if_false,
        h.stack_eq, notHead, Builder.imply_eq_self (h.around ▸ complete)]
      exact h.emit _
    · have blanks := h.emit (.text (s.takeWhile isSpace))
      by_cases allBlank : s.dropWhile isSpace = []
      · rw [allBlank, List.append_nil] at whole
        simp only [noBlanks, allBlank, List.isEmpty_iff, if_false, if_true]
        rw [whole] at blanks ⊢
        exact blanks
      · have notBlank : ¬ s.all isSpace = true := fun blank =>
          allBlank (List.dropWhile_eq_nil_iff.2 (List.all_eq_true.1 blank))
        obtain ⟨complete, notHead⟩ := complete.resolve_left notBlank
        simp only [noBlanks, allBlank, List.isEmpty_iff, if_false, blanks.stack_eq, notHead,
          Builder.imply_eq_self (blanks.around ▸ complete)]
        have both := blanks.emit (.text (s.dropWhile isSpace))
        have joined : (g.add (.text (s.takeWhile isSpace))).add (.text (s.dropWhile isSpace)) =
            g.add (.text s) := by
          simp only [Growing.add, Option.getD_some, List.append_assoc, whole]
        rwa [joined] at both
  rw [Builder.addText, if_neg (by simpa using hs), h.stack_eq]
  unfold Around.Takes at takes
  split at takes <;> rename_i top <;> simp only [top]
  · exact outer (.inl takes)
  · next name =>
    split_ifs at takes with isHtml isHead
    · rw [if_pos (.inl isHtml)]
      refine outer (takes.imp_right fun complete => ⟨complete, ?_⟩)
      rw [top, isHtml]
      decide
    · rw [if_pos (.inr isHead)]
      exact outer (.inl takes)
    · rw [if_neg (by simp [isHtml, isHead])]
      exact h.emit _

end Stands

end EpubLibrary.Html
