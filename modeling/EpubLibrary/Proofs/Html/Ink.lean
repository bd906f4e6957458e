import EpubLibrary.Proofs.Html.Parsed
import EpubLibrary.Proofs.Html.Pruned

/-!
# Text that normalising keeps

`ink` is the text of a tree without its blanks, for texts of some kinds. A text below `rt`, `rp` or
`template` has a kind of its own, which does not keep an element from being hollow.
-/

namespace EpubLibrary.Html

def TextKind.isContent : TextKind → Bool
  | .comment | .instruction | .doctype => false
  | _ => true

/-- Is the text part of the content, and no annotation or template? -/
def TextKind.isMain : TextKind → Bool
  | .plain | .cdata | .code => true
  | _ => false

mutual

/-- The characters of the texts of some kinds in a node that are not blank. -/
def Node.ink (p : TextKind → Bool) : Node → List Char
  | .text kind s => if p kind then s.toList.filter (!Text.isBlank ·) else []
  | .element _ _ children => ink p children

/-- The texts of some kinds in the order of the document, without their blanks. -/
def ink (p : TextKind → Bool) : List Node → List Char
  | [] => []
  | node :: rest => node.ink p ++ ink p rest

end

theorem ink_append (p : TextKind → Bool) (l m : List Node) : ink p (l ++ m) = ink p l ++ ink p m := by
  induction l with
  | nil => rfl
  | cons node rest ih => rw [List.cons_append, ink, ink, ih, List.append_assoc]

theorem ink_singleton (p : TextKind → Bool) (node : Node) : ink p [node] = node.ink p := by
  rw [ink, ink, List.append_nil]

/-! ## Properties everywhere -/

mutual

theorem Node.Everywhere.imp {p q : Node → Prop} (implies : ∀ node, p node → q node) :
    ∀ node : Node, node.Everywhere p → node.Everywhere q
  | .text _ _, h => implies _ h
  | .element _ _ children, h => ⟨implies _ h.1, Everywhere.imp implies children h.2⟩

theorem Everywhere.imp {p q : Node → Prop} (implies : ∀ node, p node → q node) :
    ∀ nodes : List Node, Everywhere p nodes → Everywhere q nodes
  | [], _ => trivial
  | node :: rest, h => ⟨Node.Everywhere.imp implies node h.1, Everywhere.imp implies rest h.2⟩

end

mutual

theorem Node.everywhere_iff_lineages {p : Node → Prop} : ∀ (node : Node) (around : List Node),
    node.Everywhere p ↔ ∀ n outer, n :: outer ∈ node.lineages around → p n
  | .text kind s, around => by
    simp only [Node.Everywhere, Node.lineages, List.mem_singleton, List.cons.injEq]
    constructor
    · rintro h n outer ⟨rfl, -⟩
      exact h
    · exact fun h => h _ _ ⟨rfl, rfl⟩
  | .element name attributes children, around => by
    simp only [Node.Everywhere, Node.lineages, List.mem_cons, List.cons.injEq]
    rw [everywhere_iff_lineages children (.element name attributes children :: around)]
    constructor
    · rintro ⟨here, below⟩ n outer (⟨rfl, -⟩ | mem)
      · exact here
      · exact below n outer mem
    · exact fun h => ⟨h _ _ (.inl ⟨rfl, rfl⟩), fun n outer mem => h n outer (.inr mem)⟩

/-- A property holds everywhere exactly if it holds of the first node of every lineage. -/
theorem everywhere_iff_lineages {p : Node → Prop} : ∀ (nodes : List Node) (around : List Node),
    Everywhere p nodes ↔ ∀ n outer, n :: outer ∈ lineages around nodes → p n
  | [], around => by simp [Everywhere, lineages]
  | node :: rest, around => by
    simp only [Everywhere, lineages, List.mem_append]
    rw [Node.everywhere_iff_lineages node around, everywhere_iff_lineages rest around]
    constructor
    · rintro ⟨first, later⟩ n outer (mem | mem)
      · exact first n outer mem
      · exact later n outer mem
    · exact fun h => ⟨fun n outer mem => h n outer (.inl mem), fun n outer mem => h n outer (.inr mem)⟩

end

mutual

theorem Node.everywhere_withoutDeclarations_iff {p : Node → Prop}
    (same : ∀ node, p (withoutDeclarations node) ↔ p node)
    (declarations : ∀ node, isDeclaration node = true → p node) :
    ∀ node : Node, (withoutDeclarations node).Everywhere p ↔ node.Everywhere p
  | .text _ _ => Iff.rfl
  | .element name attributes children => by
    have here := same (.element name attributes children)
    rw [withoutDeclarations] at here ⊢
    rw [Node.Everywhere, Node.Everywhere, here,
      everywhere_dropDeclarations_iff same declarations children]

/-- A property that declarations have, and that does not depend on them, holds everywhere after they
are dropped exactly if it did before. -/
theorem everywhere_dropDeclarations_iff {p : Node → Prop}
    (same : ∀ node, p (withoutDeclarations node) ↔ p node)
    (declarations : ∀ node, isDeclaration node = true → p node) :
    ∀ nodes : List Node, Everywhere p (dropDeclarations nodes) ↔ Everywhere p nodes
  | [] => Iff.rfl
  | node :: rest => by
    rw [dropDeclarations, Everywhere]
    split
    · next dropped =>
      have here : node.Everywhere p := by
        cases node with
        | element => cases dropped
        | text => exact declarations _ dropped
      rw [everywhere_dropDeclarations_iff same declarations rest]
      exact ⟨fun h => ⟨here, h⟩, fun h => h.2⟩
    · rw [Everywhere, Node.everywhere_withoutDeclarations_iff same declarations node,
        everywhere_dropDeclarations_iff same declarations rest]

end

/-! ## What pruning keeps -/

/-- A node that holds no ink if it is hollow. -/
def Spares (p : TextKind → Bool) (node : Node) : Prop := node.Hollow → node.ink p = []

mutual

theorem Node.everywhere_of_ink_nil {p : TextKind → Bool} :
    ∀ node : Node, node.ink p = [] → node.Everywhere fun n => n.ink p = []
  | .text _ _, h => h
  | .element _ _ children, h => ⟨h, everywhere_of_ink_nil children h⟩

theorem everywhere_of_ink_nil {p : TextKind → Bool} :
    ∀ nodes : List Node, ink p nodes = [] → Everywhere (fun n => n.ink p = []) nodes
  | [], _ => trivial
  | node :: rest, h => by
    obtain ⟨first, later⟩ := List.append_eq_nil_iff.1 h
    exact ⟨Node.everywhere_of_ink_nil node first, everywhere_of_ink_nil rest later⟩

end

mutual

theorem ink_pruneNode_sublist (p : TextKind → Bool) :
    ∀ node : Node, (ink p (pruneNode node).toList).Sublist (node.ink p)
  | .text kind s => by simp [pruneNode, ink_singleton]
  | .element name attributes children => by
    by_cases hollow : (Node.element name attributes children).Hollow
    · rw [(pruneNode_eq_none_iff _).2 hollow]
      exact List.nil_sublist _
    · rw [pruneNode_of_not_hollow hollow, Option.toList, ink_singleton]
      exact ink_pruneNodes_sublist p children

theorem ink_pruneNodes_sublist (p : TextKind → Bool) :
    ∀ nodes : List Node, (ink p (pruneNodes nodes)).Sublist (ink p nodes)
  | [] => .slnil
  | node :: rest => by
    rw [pruneNodes_cons, ink_append, ink]
    exact (ink_pruneNode_sublist p node).append (ink_pruneNodes_sublist p rest)

end

/-- Parts that only shrink make up the whole exactly if neither shrinks. -/
theorem append_eq_append_iff_of_sublist {l l' m m' : List Char} (hl : l'.Sublist l)
    (hm : m'.Sublist m) : l' ++ m' = l ++ m ↔ l' = l ∧ m' = m := by
  constructor
  · intro same
    have length := congrArg List.length same
    rw [List.length_append, List.length_append] at length
    have shorter := hl.length_le
    have shorter' := hm.length_le
    exact ⟨hl.eq_of_length (by omega), hm.eq_of_length (by omega)⟩
  · rintro ⟨rfl, rfl⟩
    rfl

mutual

/-- Pruning keeps all ink of a node exactly if no hollow element in it holds any. -/
theorem ink_pruneNode_eq_iff (p : TextKind → Bool) : ∀ node : Node,
    ink p (pruneNode node).toList = node.ink p ↔ node.Everywhere (Spares p)
  | .text kind s => by
    rw [pruneNode, Option.toList, ink_singleton]
    exact iff_of_true rfl fun hollow => by cases hollow.isElement
  | .element name attributes children => by
    by_cases hollow : (Node.element name attributes children).Hollow
    · rw [(pruneNode_eq_none_iff _).2 hollow]
      constructor
      · intro nothing
        have none := Node.everywhere_of_ink_nil _ nothing.symm
        exact Node.Everywhere.imp (q := Spares p) (fun _ none _ => none) _ none
      · exact fun spares => (spares.1 hollow).symm
    · rw [pruneNode_of_not_hollow hollow, Option.toList, ink_singleton]
      have below := ink_pruneNodes_eq_iff p children
      exact ⟨fun same => ⟨fun h => absurd h hollow, below.1 same⟩, fun spares => below.2 spares.2⟩

/-- Pruning keeps all ink exactly if no hollow element holds any. -/
theorem ink_pruneNodes_eq_iff (p : TextKind → Bool) : ∀ nodes : List Node,
    ink p (pruneNodes nodes) = ink p nodes ↔ Everywhere (Spares p) nodes
  | [] => iff_of_true rfl trivial
  | node :: rest => by
    rw [pruneNodes_cons, ink_append, ink, append_eq_append_iff_of_sublist
      (ink_pruneNode_sublist p node) (ink_pruneNodes_sublist p rest),
      ink_pruneNode_eq_iff p node, ink_pruneNodes_eq_iff p rest, Everywhere]

end

/-! ## What dropping declarations keeps -/

def OfContent (p : TextKind → Bool) : Prop := ∀ kind, p kind = true → kind.isContent = true

theorem ink_text_nil {p : TextKind → Bool} (content : OfContent p) {kind : TextKind}
    (none : kind.isContent = false) (s : String) : (Node.text kind s).ink p = [] := by
  rw [Node.ink, if_neg]
  intro shown
  rw [content kind shown] at none
  cases none

theorem ink_declaration {p : TextKind → Bool} (content : OfContent p) {node : Node}
    (h : isDeclaration node = true) : node.ink p = [] := by
  cases node with
  | element => cases h
  | text kind s =>
    refine ink_text_nil content ?_ s
    cases kind <;> first | rfl | cases h

mutual

theorem ink_withoutDeclarations {p : TextKind → Bool} (content : OfContent p) :
    ∀ node : Node, (withoutDeclarations node).ink p = node.ink p
  | .text _ _ => rfl
  | .element _ _ children => ink_dropDeclarations content children

theorem ink_dropDeclarations {p : TextKind → Bool} (content : OfContent p) :
    ∀ nodes : List Node, ink p (dropDeclarations nodes) = ink p nodes
  | [] => rfl
  | node :: rest => by
    rw [dropDeclarations, ink]
    split
    · next dropped =>
      rw [ink_declaration content dropped, ink_dropDeclarations content rest, List.nil_append]
    · rw [ink, ink_withoutDeclarations content node, ink_dropDeclarations content rest]

end

theorem idle_of_isDeclaration {node : Node} (h : isDeclaration node = true) : IsIdle node := by
  cases node with
  | element => cases h
  | text kind s => rintro (rfl | rfl) <;> cases h

theorem hollow_withoutDeclarations_iff (node : Node) :
    (withoutDeclarations node).Hollow ↔ node.Hollow := by
  have element : isElement (withoutDeclarations node) = isElement node := by cases node <;> rfl
  have same (n : Node) : IsIdle (withoutDeclarations n) ↔ IsIdle n := by cases n <;> exact Iff.rfl
  have idle := Node.everywhere_withoutDeclarations_iff same (fun _ => idle_of_isDeclaration) node
  constructor
  · exact fun h => ⟨element ▸ h.isElement, idle.1 h.idle⟩
  · exact fun h => ⟨element.symm ▸ h.isElement, idle.2 h.idle⟩

theorem spares_dropDeclarations_iff {p : TextKind → Bool} (content : OfContent p)
    (nodes : List Node) :
    Everywhere (Spares p) (dropDeclarations nodes) ↔ Everywhere (Spares p) nodes := by
  refine everywhere_dropDeclarations_iff (fun node => ?_) (fun node declaration _ => ?_) nodes
  · rw [Spares, Spares, hollow_withoutDeclarations_iff, ink_withoutDeclarations content]
  · exact ink_declaration content declaration

/-- Both clean-ups keep all ink of some kinds exactly if no hollow element holds any. -/
theorem ink_cleaned_eq_iff {p : TextKind → Bool} (content : OfContent p) (nodes : List Node) :
    ink p (prune (dropDeclarations nodes)) = ink p nodes ↔ Everywhere (Spares p) nodes := by
  rw [← ink_dropDeclarations content nodes, prune, ink_pruneNodes_eq_iff,
    spares_dropDeclarations_iff content]

/-! ## Hollow elements of a parsed tree -/

/-- An element whose text has a kind that pruning does not look at. -/
def SetsApart : Node → Prop
  | .text .. => False
  | .element name _ _ => name ∈ ["rt", "rp", "template"]

def Node.name? : Node → Option String
  | .text .. => none
  | .element name _ _ => some name

/-- The names of the elements around a place, of which only the innermost may hold no markup. -/
structure Inside (around : List Node) (a : Around) : Prop where
  stack : a.stack = around.filterMap Node.name?
  markup : a.stack.tail.all holdsMarkup = true

theorem Inside.past {around : List Node} {a : Around} (h : Inside around a) (node : Node) :
    Inside around (a.past node) where
  stack := by rw [Around.past_stack, h.stack]
  markup := by rw [Around.past_stack, h.markup]

theorem all_of_head?_tail {α : Type} {p : α → Bool} {l : List α} (head : l.head?.all p = true)
    (tail : l.tail.all p = true) : l.all p = true := by
  cases l with
  | nil => rfl
  | cons x l => exact Bool.and_eq_true_iff.2 ⟨head, tail⟩

/-- Every element around an element holds markup. -/
theorem Inside.all_holdsMarkup {around children : List Node} {a : Around} {name : String}
    {attributes : List (String × Value)} (h : Inside around a)
    (fits : (Node.element name attributes children).Fits a) : a.stack.all holdsMarkup = true :=
  all_of_head?_tail fits.1.admitted.isOpen h.markup

theorem Inside.enter {around children : List Node} {a : Around} {name : String}
    {attributes : List (String × Value)} (h : Inside around a)
    (fits : (Node.element name attributes children).Fits a) :
    Inside (.element name attributes children :: around) (a.enter name) where
  stack := by simp [Around.enter, Node.name?, h.stack]
  markup := h.all_holdsMarkup fits

mutual

theorem Node.Fits.inside : ∀ (node : Node) {around : List Node} {a : Around},
    node.Fits a → Inside around a → ∀ {n : Node} {outer : List Node},
    n :: outer ∈ node.lineages around → ∃ b, n.Fits b ∧ Inside outer b
  | .text kind s, around, a, fits, inside, n, outer, mem => by
    obtain ⟨rfl, rfl⟩ := List.cons.inj (List.mem_singleton.1 mem)
    exact ⟨a, fits, inside⟩
  | .element name attributes children, around, a, fits, inside, n, outer, mem => by
    rcases List.mem_cons.1 mem with eq | below
    · obtain ⟨rfl, rfl⟩ := List.cons.inj eq
      exact ⟨a, fits, inside⟩
    · exact Fits.inside children fits.2 (inside.enter fits) below

/-- Each node of a tree that fits stands inside the elements of its lineage. -/
theorem Fits.inside : ∀ (nodes : List Node) {around : List Node} {a : Around},
    Fits a nodes → Inside around a → ∀ {n : Node} {outer : List Node},
    n :: outer ∈ lineages around nodes → ∃ b, n.Fits b ∧ Inside outer b
  | node :: rest, around, a, fits, inside, n, outer, mem => by
    rcases List.mem_append.1 mem with first | later
    · exact Node.Fits.inside node fits.1 inside first
    · exact Fits.inside rest fits.2 (inside.past node) later

end

theorem textKindOf?_of_isPrunable {name : String} (h : isPrunable name = true) :
    textKindOf? name = none := by
  have others : ∀ n ∈ ["rt", "rp", "style", "script", "template"], isPrunable n = false := by decide
  have apart : ∀ n ∈ ["rt", "rp", "style", "script", "template"], name ≠ n := by
    rintro n hn rfl
    rw [others name hn] at h
    cases h
  simp_all [textKindOf?]

/-- Inert elements leave the kind of the text inside them as it is around them. -/
theorem textKind_enter {a : Around} {name : String} (h : isPrunable name = true) :
    (a.enter name).textKind = a.textKind := by
  simp [Around.textKind, Around.enter, textKindOf?_of_isPrunable h]

mutual

theorem Node.ink_idle {p : TextKind → Bool} (content : OfContent p) :
    ∀ (node : Node) {a : Around}, node.Fits a → node.Everywhere IsIdle →
      (a.textKind = .plain ∨ p a.textKind = false) → node.ink p = []
  | .text kind s, a, fits, idle, here => by
    -- A text that is shown has the kind of its place; any other is no content.
    by_cases shown : kind.isShown = true
    · obtain rfl := ((textFits_iff shown).1 fits).1
      rcases here with plain | hidden
      · have blank : Text.allBlank s.toList = true := idle (.inl plain)
        rw [Node.ink, List.filter_eq_nil_iff.2 fun c hc => ?_, ite_self]
        simpa using List.all_eq_true.1 blank c hc
      · rw [Node.ink, hidden]
        rfl
    · cases kind <;> first | exact absurd rfl shown | exact ink_text_nil content rfl s | cases fits
  | .element name attributes children, a, fits, idle, here => by
    have prunable : isPrunable name = true := by
      have inert : isInert name attributes = true := idle.1
      rw [isInert, Bool.and_eq_true] at inert
      exact inert.1
    exact ink_idle content children fits.2 idle.2 (by rwa [textKind_enter prunable])

/-- Where text is plain, or of a kind that is left out, inert elements and blank text hold no ink. -/
theorem ink_idle {p : TextKind → Bool} (content : OfContent p) :
    ∀ (nodes : List Node) {a : Around}, Fits a nodes → Everywhere IsIdle nodes →
      (a.textKind = .plain ∨ p a.textKind = false) → ink p nodes = []
  | [], _, _, _, _ => rfl
  | node :: rest, a, fits, idle, here => by
    have kind : (a.past node).textKind = a.textKind := by
      rw [Around.textKind, Around.textKind, Around.past_stack]
    rw [ink, Node.ink_idle content node fits.1 idle.1 here,
      ink_idle content rest fits.2 idle.2 (by rwa [kind]), List.nil_append]

end

theorem textKindOf?_cases {name : String} {kind : TextKind} (h : textKindOf? name = some kind) :
    (name ∈ ["rt", "rp", "template"] ∧ kind.isMain = false) ∨ holdsMarkup name = false := by
  unfold textKindOf? at h
  split_ifs at h with ruby code template
  · obtain rfl := Option.some.inj h
    rcases ruby with rfl | rfl <;> exact .inl (by decide)
  · rcases code with rfl | rfl <;> exact .inr (by decide)
  · obtain rfl := Option.some.inj h
    subst template
    exact .inl (by decide)

/-- Where all elements around hold markup, text is plain unless one of them sets it apart. -/
theorem Inside.textKind {around : List Node} {a : Around} (h : Inside around a)
    (markup : a.stack.all holdsMarkup = true) :
    a.textKind = .plain ∨ a.textKind.isMain = false ∧ ∃ outer ∈ around, SetsApart outer := by
  cases found : a.stack.findSome? textKindOf? with
  | none => exact .inl (by rw [Around.textKind, found]; rfl)
  | some kind =>
    obtain ⟨name, mem, special⟩ := List.exists_of_findSome?_eq_some found
    have here : a.textKind = kind := by rw [Around.textKind, found]; rfl
    rcases textKindOf?_cases special with ⟨apart, annotation⟩ | raw
    · refine .inr ⟨here ▸ annotation, ?_⟩
      rw [h.stack] at mem
      obtain ⟨outer, around, named⟩ := List.mem_filterMap.1 mem
      refine ⟨outer, around, ?_⟩
      cases outer with
      | text => cases named
      | element n _ _ =>
        obtain rfl := Option.some.inj named
        exact apart
    · rw [List.all_eq_true.1 markup name mem] at raw
      cases raw

section
variable {around : List Node} {a : Around} {node : Node} (inside : Inside around a)
  (fits : node.Fits a) (hollow : node.Hollow)
include inside fits hollow

/-- The text of a hollow element is plain, unless an element around it sets it apart. -/
theorem Inside.kind_of_hollow :
    a.textKind = .plain ∨ a.textKind.isMain = false ∧ ∃ outer ∈ around, SetsApart outer := by
  cases node with
  | text => cases hollow.isElement
  | element => exact inside.textKind (inside.all_holdsMarkup fits)

/-- A hollow element holds no text of the main kinds. -/
theorem Inside.main_ink : node.ink TextKind.isMain = [] := by
  refine Node.ink_idle (fun kind main => ?_) node fits hollow.idle ?_
  · cases kind <;> first | rfl | cases main
  · exact (inside.kind_of_hollow fits hollow).imp_right And.left

/-- A hollow element that nothing sets apart holds no text. -/
theorem Inside.ink (plain : ¬ ∃ outer ∈ around, SetsApart outer) :
    node.ink TextKind.isContent = [] := by
  refine Node.ink_idle (fun _ => id) node fits hollow.idle (.inl ?_)
  exact (inside.kind_of_hollow fits hollow).resolve_right fun h => plain h.2

end

/-! ## Normalising -/

/-- Normalising loses no text but annotations and templates, and loses none of these exactly if every
hollow element below `rt`, `rp` or `template` is blank: the text of such an element does not keep it
from being removed, since pruning looks at plain text only. -/
theorem normalize_keeps_ink (markup : List Char) :
    ink TextKind.isMain (normalTree markup) = ink TextKind.isMain (parse (dropMark markup)) ∧
    (ink TextKind.isContent (normalTree markup) =
        ink TextKind.isContent (parse (dropMark markup)) ↔
      ∀ node around, node :: around ∈ lineages [] (parse (dropMark markup)) → node.Hollow →
        (∃ outer ∈ around, SetsApart outer) → node.ink TextKind.isContent = []) := by
  have fits := fits_parse (dropMark markup)
  have root : Inside [] Around.root := ⟨rfl, rfl⟩
  constructor
  · refine (ink_cleaned_eq_iff (fun kind main => ?_) _).2 ?_
    · cases kind <;> first | rfl | cases main
    · refine (everywhere_iff_lineages _ []).2 fun node around mem hollow => ?_
      obtain ⟨a, here, inside⟩ := fits.inside _ root mem
      exact inside.main_ink here hollow
  · rw [normalTree, ink_cleaned_eq_iff fun _ => id, everywhere_iff_lineages _ []]
    constructor
    · exact fun spares node around mem hollow _ => spares node around mem hollow
    · intro annotations node around mem hollow
      obtain ⟨a, here, inside⟩ := fits.inside _ root mem
      by_cases apart : ∃ outer ∈ around, SetsApart outer
      · exact annotations node around mem hollow apart
      · exact inside.ink here hollow apart

/-- The reading of a word, put into an element of its own, is lost. -/
theorem normalize_loses_annotation :
    ink TextKind.isContent (normalTree "<p><ruby>a<rt><span>b</span></rt></ruby></p>".toList) ≠
      ink TextKind.isContent
        (parse (dropMark "<p><ruby>a<rt><span>b</span></rt></ruby></p>".toList)) := by
  decide +kernel

end EpubLibrary.Html
