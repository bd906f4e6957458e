import EpubLibrary.Proofs.Html.Clean

/-!
# What pruning removes

A node is `Hollow` when it is an element, it and every element below it are inert, and every text
below it is blank. This is said of the tree as it was before anything was removed. A tree is known
by its `lineages`, the nodes in the order of the document, each with the elements around it.
-/

namespace EpubLibrary.Html

/-- Does the element matter only through its content? -/
def isInert (name : String) (attributes : List (String × Value)) : Bool :=
  isPrunable name && !isTarget name attributes

/-- An inert element, blank text, or text that is never shown. -/
def IsIdle : Node → Prop
  | .text kind s => kind = .plain ∨ kind = .cdata → Text.allBlank s.toList = true
  | .element name attributes _ => isInert name attributes = true

instance : DecidablePred IsIdle
  | .text .. => inferInstanceAs (Decidable (_ → _))
  | .element .. => inferInstanceAs (Decidable (_ = _))

/-- An inert element in which there are only inert elements and blank text. -/
structure Node.Hollow (node : Node) : Prop where
  isElement : isElement node = true
  idle : node.Everywhere IsIdle

instance (node : Node) : Decidable node.Hollow :=
  decidable_of_iff (isElement node = true ∧ node.Everywhere IsIdle)
    ⟨fun ⟨a, b⟩ => ⟨a, b⟩, fun ⟨a, b⟩ => ⟨a, b⟩⟩

theorem isBlankText_iff (kind : TextKind) (s : String) :
    isBlankText (.text kind s) = true ↔ IsIdle (.text kind s) := by
  cases kind <;> simp [isBlankText, IsIdle]

theorem isRemovable_iff {name : String} {attributes : List (String × Value)}
    {children : List Node} : isRemovable name attributes children = true ↔
      isInert name attributes = true ∧ children.all isBlankText = true := by
  rw [isRemovable, isInert, Bool.and_eq_true]

mutual

/-- A node is removed exactly if it is hollow. -/
theorem pruneNode_eq_none_iff : ∀ node : Node, pruneNode node = none ↔ node.Hollow
  | .text kind s => by
    refine iff_of_false (fun removed => by cases removed) (fun hollow => ?_)
    cases hollow.isElement
  | .element name attributes children => by
    have removed : pruneNode (.element name attributes children) = none ↔
        isRemovable name attributes (pruneNodes children) = true := by
      simp [pruneNode]
    rw [removed, isRemovable_iff, all_isBlankText_pruneNodes children]
    exact ⟨fun idle => ⟨rfl, idle⟩, fun hollow => hollow.idle⟩

/-- Only blank text is left exactly if there were only inert elements and blank text. -/
theorem all_isBlankText_pruneNodes : ∀ nodes : List Node,
    (pruneNodes nodes).all isBlankText = true ↔ Everywhere IsIdle nodes
  | [] => iff_of_true rfl trivial
  | .text kind s :: rest => by
    rw [pruneNodes, pruneNode, List.all_cons, Bool.and_eq_true, isBlankText_iff,
      all_isBlankText_pruneNodes rest]
    exact Iff.rfl
  | .element name attributes children :: rest => by
    have first := pruneNode_eq_none_iff (.element name attributes children)
    rw [pruneNodes]
    split
    · next kept stays =>
      obtain ⟨keptChildren, rfl⟩ : ∃ l, kept = .element name attributes l := by
        simp only [pruneNode] at stays
        split at stays
        · cases stays
        · exact ⟨_, (Option.some.inj stays).symm⟩
      have full : ¬ (Node.element name attributes children).Everywhere IsIdle := fun idle => by
        rw [first.2 ⟨rfl, idle⟩] at stays
        cases stays
      refine iff_of_false (fun blank => ?_) (fun idle => full idle.1)
      cases (Bool.and_eq_true _ _ ▸ blank : _ ∧ _).1
    · next removed =>
      rw [all_isBlankText_pruneNodes rest]
      exact ⟨fun idle => ⟨(first.1 removed).idle, idle⟩, fun idle => idle.2⟩

end

theorem pruneNode_of_not_hollow {name : String} {attributes : List (String × Value)}
    {children : List Node} (solid : ¬ (Node.element name attributes children).Hollow) :
    pruneNode (.element name attributes children) =
      some (.element name attributes (pruneNodes children)) := by
  have stays := mt (pruneNode_eq_none_iff _).1 solid
  simpa [pruneNode] using stays

theorem pruneNodes_cons (node : Node) (rest : List Node) :
    pruneNodes (node :: rest) = (pruneNode node).toList ++ pruneNodes rest := by
  rw [pruneNodes]
  split
  · next kept stays => rw [stays]; rfl
  · next removed => rw [removed]; rfl

/-! ## Lineages -/

mutual

def Node.lineages (around : List Node) : Node → List (List Node)
  | .text kind s => [.text kind s :: around]
  | .element name attributes children =>
    (.element name attributes children :: around) ::
      lineages (.element name attributes children :: around) children

/-- Every node in the order of the document, followed by the elements around it, innermost first. -/
def lineages (around : List Node) : List Node → List (List Node)
  | [] => []
  | node :: rest => node.lineages around ++ lineages around rest

end

def Node.shell : Node → Node
  | .text kind s => .text kind s
  | .element name attributes _ => .element name attributes []

def Stays (lineage : List Node) : Prop := ∀ node ∈ lineage, ¬ node.Hollow

instance (lineage : List Node) : Decidable (Stays lineage) :=
  inferInstanceAs (Decidable (∀ node ∈ lineage, ¬ node.Hollow))

theorem lineages_append (around l m : List Node) :
    lineages around (l ++ m) = lineages around l ++ lineages around m := by
  induction l with
  | nil => rfl
  | cons node rest ih => rw [List.cons_append, lineages, lineages, ih, List.append_assoc]

theorem lineages_singleton (around : List Node) (node : Node) :
    lineages around [node] = node.lineages around := by
  rw [lineages, lineages, List.append_nil]

mutual

theorem Node.suffix_of_mem_lineages : ∀ (node : Node) {around lineage : List Node},
    lineage ∈ node.lineages around → around <:+ lineage
  | .text kind s, around, lineage, mem => by
    obtain rfl := List.mem_singleton.1 mem
    exact List.suffix_cons _ _
  | .element name attributes children, around, lineage, mem => by
    rcases List.mem_cons.1 mem with rfl | below
    · exact List.suffix_cons _ _
    · exact (List.suffix_cons _ _).trans (suffix_of_mem_lineages children below)

theorem suffix_of_mem_lineages : ∀ (nodes : List Node) {around lineage : List Node},
    lineage ∈ lineages around nodes → around <:+ lineage
  | node :: rest, around, lineage, mem => by
    rcases List.mem_append.1 mem with first | later
    · exact Node.suffix_of_mem_lineages node first
    · exact suffix_of_mem_lineages rest later

end

/-- Every lineage of an element or of a node below it holds the element. -/
theorem mem_of_mem_lineages {name : String} {attributes : List (String × Value)}
    {children around lineage : List Node}
    (mem : lineage ∈ (Node.element name attributes children).lineages around) :
    Node.element name attributes children ∈ lineage := by
  rcases List.mem_cons.1 mem with rfl | below
  · exact List.mem_cons_self
  · exact (suffix_of_mem_lineages children below).subset List.mem_cons_self

mutual

/-- What is below a hollow element is idle. -/
theorem Node.idle_of_mem_lineages : ∀ (node : Node) {around : List Node},
    ((∃ m ∈ around, m.Hollow) → node.Everywhere IsIdle) →
    ∀ {n : Node} {outer : List Node}, n :: outer ∈ node.lineages around →
      (∃ m ∈ n :: outer, m.Hollow) → n.Everywhere IsIdle
  | .text kind s, around, above, n, outer, mem, hollow => by
    obtain ⟨rfl, rfl⟩ := List.cons.inj (List.mem_singleton.1 mem)
    obtain ⟨m, hm, hollow⟩ := hollow
    rcases List.mem_cons.1 hm with rfl | around
    · exact hollow.idle
    · exact above ⟨m, around, hollow⟩
  | .element name attributes children, around, above, n, outer, mem, hollow => by
    have here : (∃ m ∈ Node.element name attributes children :: around, m.Hollow) →
        (Node.element name attributes children).Everywhere IsIdle := by
      rintro ⟨m, hm, hollow⟩
      rcases List.mem_cons.1 hm with rfl | around
      · exact hollow.idle
      · exact above ⟨m, around, hollow⟩
    rcases List.mem_cons.1 mem with eq | below
    · obtain ⟨rfl, rfl⟩ := List.cons.inj eq
      exact here hollow
    · exact idle_of_mem_lineages children (fun h => (here h).2) below hollow

theorem idle_of_mem_lineages : ∀ (nodes : List Node) {around : List Node},
    ((∃ m ∈ around, m.Hollow) → Everywhere IsIdle nodes) →
    ∀ {n : Node} {outer : List Node}, n :: outer ∈ lineages around nodes →
      (∃ m ∈ n :: outer, m.Hollow) → n.Everywhere IsIdle
  | node :: rest, around, above, n, outer, mem, hollow => by
    rcases List.mem_append.1 mem with first | later
    · exact Node.idle_of_mem_lineages node (fun h => (above h).1) first hollow
    · exact idle_of_mem_lineages rest (fun h => (above h).2) later hollow

end

mutual

theorem lineages_pruneNode : ∀ (node : Node) (around kept : List Node),
    kept.map Node.shell = around.map Node.shell → Stays around →
    (lineages kept (pruneNode node).toList).map (·.map Node.shell) =
      ((node.lineages around).filter Stays).map (·.map Node.shell)
  | .text kind s, around, kept, same, stays => by
    have shown : Stays (.text kind s :: around) := by
      intro m hm
      rcases List.mem_cons.1 hm with rfl | above
      · exact fun hollow => by cases hollow.isElement
      · exact stays m above
    simp [pruneNode, lineages, Node.lineages, same, shown]
  | .element name attributes children, around, kept, same, stays => by
    by_cases hollow : (Node.element name attributes children).Hollow
    · have none : ((Node.element name attributes children).lineages around).filter Stays = [] := by
        refine List.filter_eq_nil_iff.2 fun l mem => ?_
        simpa using fun stays : Stays l => stays _ (mem_of_mem_lineages mem) hollow
      rw [(pruneNode_eq_none_iff _).2 hollow, none]
      rfl
    · have here : Stays (.element name attributes children :: around) := by
        intro m hm
        rcases List.mem_cons.1 hm with rfl | above
        · exact hollow
        · exact stays m above
      -- Below it the lineages differ in what stands in it, though not in its tag.
      have below := lineages_pruneNodes children (.element name attributes children :: around)
        (.element name attributes (pruneNodes children) :: kept) (by simp [Node.shell, same]) here
      simp only [pruneNode_of_not_hollow hollow, Option.toList, lineages_singleton, Node.lineages,
        List.filter_cons, here, decide_true, if_true, List.map_cons, below, same, Node.shell]

/-- The lineages of the pruned nodes are those without a hollow element, tag for tag. -/
theorem lineages_pruneNodes : ∀ (nodes : List Node) (around kept : List Node),
    kept.map Node.shell = around.map Node.shell → Stays around →
    (lineages kept (pruneNodes nodes)).map (·.map Node.shell) =
      ((lineages around nodes).filter Stays).map (·.map Node.shell)
  | [], _, _, _, _ => rfl
  | node :: rest, around, kept, same, stays => by
    rw [pruneNodes_cons, lineages_append, List.map_append,
      lineages_pruneNode node around kept same stays,
      lineages_pruneNodes rest around kept same stays, lineages, List.filter_append, List.map_append]

end

/-! ## One sweep -/

mutual

/-- The position of the node, and those of the elements below it. -/
def Node.positions (i : Nat) : Node → List (List Nat)
  | .text .. => []
  | .element _ _ children => [i] :: (positions 0 children).map (i :: ·)

/-- The positions of all elements in the order of the document: a node's position is its number
among its siblings, behind that of its parent. -/
def positions (i : Nat) : List Node → List (List Nat)
  | [] => []
  | node :: rest => node.positions i ++ positions (i + 1) rest

end

/-- Removes the element at a position if it is removable as the tree is now. -/
def visit : List Nat → List Node → List Node
  | [], nodes => nodes
  | [i], nodes =>
    match nodes[i]? with
    | some (.element name attributes children) =>
      if isRemovable name attributes children then nodes.eraseIdx i else nodes
    | _ => nodes
  | i :: j :: below, nodes =>
    match nodes[i]? with
    | some (.element name attributes children) =>
      nodes.set i (.element name attributes (visit (j :: below) children))
    | _ => nodes

/-- Visits all elements, the last one first. -/
def sweep (nodes : List Node) : List Node := (positions 0 nodes).foldr visit nodes

mutual

theorem Node.positions_ne_nil : ∀ (node : Node) {i : Nat} {position : List Nat},
    position ∈ node.positions i → position ≠ []
  | .element name attributes children, i, position, mem => by
    rcases List.mem_cons.1 mem with rfl | below
    · exact List.cons_ne_nil _ _
    · obtain ⟨rest, _, rfl⟩ := List.mem_map.1 below
      exact List.cons_ne_nil _ _

theorem positions_ne_nil : ∀ (nodes : List Node) {i : Nat} {position : List Nat},
    position ∈ positions i nodes → position ≠ []
  | node :: rest, i, position, mem => by
    rcases List.mem_append.1 mem with first | later
    · exact Node.positions_ne_nil node first
    · exact positions_ne_nil rest later

end

section
variable {name : String} {attributes : List (String × Value)} {children before behind : List Node}

theorem getElem?_here (node : Node) : (before ++ node :: behind)[before.length]? = some node := by
  rw [List.getElem?_append_right (Nat.le_refl _), Nat.sub_self, List.getElem?_cons_zero]

theorem visit_here : visit [before.length] (before ++ .element name attributes children :: behind) =
    before ++ (if isRemovable name attributes children then none
      else some (Node.element name attributes children)).toList ++ behind := by
  simp only [visit, getElem?_here]
  split
  · simp [List.eraseIdx_append_of_length_le]
  · simp

theorem visit_below {position : List Nat} (below : position ≠ []) :
    visit (before.length :: position) (before ++ .element name attributes children :: behind) =
      before ++ .element name attributes (visit position children) :: behind := by
  cases position with
  | nil => exact absurd rfl below
  | cons j position => simp [visit]

/-- Visiting what is below an element changes its children and nothing else. -/
theorem foldr_visit_below {below : List (List Nat)} (proper : ∀ position ∈ below, position ≠ []) :
    (below.map (before.length :: ·)).foldr visit
        (before ++ .element name attributes children :: behind) =
      before ++ .element name attributes (below.foldr visit children) :: behind := by
  induction below with
  | nil => rfl
  | cons position below ih =>
    rw [List.map_cons, List.foldr_cons, List.foldr_cons,
      ih fun q hq => proper q (List.mem_cons_of_mem _ hq),
      visit_below (proper position List.mem_cons_self)]

end

mutual

/-- Visiting the elements of a node, the last one first, comes to pruning it. -/
theorem foldr_visit_node : ∀ (node : Node) (before behind : List Node),
    (node.positions before.length).foldr visit (before ++ node :: behind) =
      before ++ (pruneNode node).toList ++ behind
  | .text kind s, before, behind => by
    simp [Node.positions, pruneNode]
  | .element name attributes children, before, behind => by
    -- Its children are behind it, so they have been visited when it is.
    have inside := foldr_visit_nodes children []
    rw [List.nil_append, List.nil_append, List.length_nil] at inside
    rw [Node.positions, List.foldr_cons, foldr_visit_below fun _ => positions_ne_nil children,
      inside, visit_here, pruneNode]

/-- The elements behind some nodes are visited before any of these is moved. -/
theorem foldr_visit_nodes : ∀ nodes before : List Node,
    (positions before.length nodes).foldr visit (before ++ nodes) = before ++ pruneNodes nodes
  | [], before => rfl
  | node :: rest, before => by
    have later := foldr_visit_nodes rest (before ++ [node])
    rw [List.length_append, List.length_singleton, List.append_assoc, List.append_assoc,
      List.singleton_append] at later
    rw [positions, List.foldr_append, later, List.singleton_append, foldr_visit_node node,
      pruneNodes_cons, List.append_assoc]

end

/-- One visit of each element, the last one first, prunes the tree. -/
theorem sweep_eq_prune (nodes : List Node) : sweep nodes = prune nodes :=
  foldr_visit_nodes nodes []

/-! ## What pruning comes to -/

/-- A sweep over the elements, the last one first, prunes the tree. It removes exactly the hollow
elements, with all that is below them; every other node stays with its attributes, its text, its
place in the order of the document and the elements around it. So a second run removes nothing. -/
theorem prune_exact (nodes : List Node) :
    sweep nodes = prune nodes ∧
    (∀ node around, node :: around ∈ lineages [] nodes → isElement node = true →
      (Stays (node :: around) ↔ ¬ node.Hollow)) ∧
    (lineages [] (prune nodes)).map (·.map Node.shell) =
      ((lineages [] nodes).filter Stays).map (·.map Node.shell) ∧
    prune (prune nodes) = prune nodes := by
  refine ⟨sweep_eq_prune nodes, ?_, lineages_pruneNodes nodes [] [] rfl ?_, ?_⟩
  · intro node around mem element
    refine ⟨fun stays => stays node List.mem_cons_self, fun solid m hm hollow => solid ?_⟩
    exact ⟨element, idle_of_mem_lineages nodes (by simp) mem ⟨m, hm, hollow⟩⟩
  · intro node mem
    cases mem
  · exact pruneNodes_eq_self _ (notRemovable_pruneNodes nodes)

/-- A paragraph is removed with the comment in it and the blanks around its inert elements; the
anchor of a note keeps the elements around it. -/
example : sweep [.element "p" [] [.text .plain " ", .element "i" [] [.text .comment "c"]],
      .element "div" [] [.element "b" [] [], .element "a" [("name", .text "n")] []]] =
    [.element "div" [] [.element "a" [("name", .text "n")] []]] := by
  rfl

end EpubLibrary.Html
