import EpubLibrary.Html.Normalize

namespace EpubLibrary.Html

mutual

/-- Does the property hold of the node and of every node below it? -/
def Node.Everywhere (p : Node → Prop) : Node → Prop
  | .text kind s => p (.text kind s)
  | .element name attributes children =>
    p (.element name attributes children) ∧ Everywhere p children

def Everywhere (p : Node → Prop) : List Node → Prop
  | [] => True
  | node :: rest => node.Everywhere p ∧ Everywhere p rest

end

mutual

def Node.decidableEverywhere (p : Node → Prop) [DecidablePred p] :
    (node : Node) → Decidable (node.Everywhere p)
  | .text kind s => inferInstanceAs (Decidable (p (.text kind s)))
  | .element name attributes children =>
    have := decidableEverywhere p children
    inferInstanceAs (Decidable (p (.element name attributes children) ∧ Everywhere p children))

def decidableEverywhere (p : Node → Prop) [DecidablePred p] :
    (nodes : List Node) → Decidable (Everywhere p nodes)
  | [] => isTrue trivial
  | node :: rest =>
    have := node.decidableEverywhere p
    have := decidableEverywhere p rest
    inferInstanceAs (Decidable (node.Everywhere p ∧ Everywhere p rest))

end

instance (p : Node → Prop) [DecidablePred p] (nodes : List Node) : Decidable (Everywhere p nodes) :=
  decidableEverywhere p nodes

instance (p : Node → Prop) [DecidablePred p] (node : Node) : Decidable (node.Everywhere p) :=
  node.decidableEverywhere p

/-- An element that prunes away once its children are pruned. -/
def isRemovableNode : Node → Bool
  | .text .. => false
  | .element name attributes children => isRemovable name attributes children

def NoDeclaration (node : Node) : Prop := isDeclaration node = false

def NotRemovable (node : Node) : Prop := isRemovableNode node = false

structure Clean (nodes : List Node) : Prop where
  noDeclaration : Everywhere NoDeclaration nodes
  pruned : Everywhere NotRemovable nodes

/-! ## Dropping declarations -/

mutual

theorem everywhere_withoutDeclarations :
    ∀ node : Node, NoDeclaration node → (withoutDeclarations node).Everywhere NoDeclaration
  | .text _ _, h => h
  | .element _ _ children, _ => ⟨rfl, everywhere_dropDeclarations children⟩

theorem everywhere_dropDeclarations :
    ∀ nodes : List Node, Everywhere NoDeclaration (dropDeclarations nodes)
  | [] => trivial
  | node :: rest => by
    rw [dropDeclarations]
    split
    · exact everywhere_dropDeclarations rest
    · next h =>
      exact ⟨everywhere_withoutDeclarations node (by simpa [NoDeclaration] using h),
        everywhere_dropDeclarations rest⟩

end

mutual

theorem withoutDeclarations_eq_self :
    ∀ node : Node, node.Everywhere NoDeclaration → withoutDeclarations node = node
  | .text _ _, _ => rfl
  | .element _ _ children, h => by
    rw [withoutDeclarations, dropDeclarations_eq_self children h.2]

theorem dropDeclarations_eq_self :
    ∀ nodes : List Node, Everywhere NoDeclaration nodes → dropDeclarations nodes = nodes
  | [], _ => rfl
  | node :: rest, h => by
    have first : isDeclaration node = false := by
      cases node with
      | text => exact h.1
      | element => rfl
    rw [dropDeclarations, if_neg (by simp [first]), withoutDeclarations_eq_self node h.1,
      dropDeclarations_eq_self rest h.2]

end

/-! ## Pruning -/

mutual

theorem notRemovable_pruneNode :
    ∀ node kept : Node, pruneNode node = some kept → kept.Everywhere NotRemovable
  | .text _ _, _, h => by
    obtain rfl := Option.some.inj h
    rfl
  | .element name attributes children, kept, h => by
    simp only [pruneNode] at h
    split at h
    · cases h
    · next stays =>
      obtain rfl := Option.some.inj h
      exact ⟨by simpa [NotRemovable, isRemovableNode] using stays,
        notRemovable_pruneNodes children⟩

theorem notRemovable_pruneNodes :
    ∀ nodes : List Node, Everywhere NotRemovable (pruneNodes nodes)
  | [] => trivial
  | node :: rest => by
    rw [pruneNodes]
    split
    · next kept h => exact ⟨notRemovable_pruneNode node kept h, notRemovable_pruneNodes rest⟩
    · exact notRemovable_pruneNodes rest

end

mutual

theorem pruneNode_eq_self :
    ∀ node : Node, node.Everywhere NotRemovable → pruneNode node = some node
  | .text _ _, _ => rfl
  | .element name attributes children, h => by
    have stays : isRemovable name attributes children = false := h.1
    simp [pruneNode, pruneNodes_eq_self children h.2, stays]

theorem pruneNodes_eq_self :
    ∀ nodes : List Node, Everywhere NotRemovable nodes → pruneNodes nodes = nodes
  | [], _ => rfl
  | node :: rest, h => by
    rw [pruneNodes, pruneNode_eq_self node h.1, pruneNodes_eq_self rest h.2]

end

mutual

/-- Pruning keeps any property that an element has because of its name and attributes. -/
theorem Node.Everywhere.pruneNode {p : Node → Prop}
    (keeps : ∀ name attributes children kept,
      p (.element name attributes children) → p (.element name attributes kept)) :
    ∀ node kept : Node, node.Everywhere p → pruneNode node = some kept → kept.Everywhere p
  | .text _ _, _, h, he => by
    obtain rfl := Option.some.inj he
    exact h
  | .element name attributes children, kept, h, he => by
    simp only [Html.pruneNode] at he
    split at he
    · cases he
    · obtain rfl := Option.some.inj he
      exact ⟨keeps _ _ _ _ h.1, Everywhere.pruneNodes keeps children h.2⟩

theorem Everywhere.pruneNodes {p : Node → Prop}
    (keeps : ∀ name attributes children kept,
      p (.element name attributes children) → p (.element name attributes kept)) :
    ∀ nodes : List Node, Everywhere p nodes → Everywhere p (pruneNodes nodes)
  | [], _ => trivial
  | node :: rest, h => by
    rw [Html.pruneNodes]
    split
    · next kept he =>
      exact ⟨Node.Everywhere.pruneNode keeps node kept h.1 he,
        Everywhere.pruneNodes keeps rest h.2⟩
    · exact Everywhere.pruneNodes keeps rest h.2

end

/-! ## Both steps -/

/-- Dropping the declarations first and pruning then leaves a clean tree. -/
theorem clean_prune (nodes : List Node) : Clean (prune (dropDeclarations nodes)) where
  noDeclaration :=
    Everywhere.pruneNodes (fun _ _ _ _ _ => rfl) _ (everywhere_dropDeclarations nodes)
  pruned := notRemovable_pruneNodes _

/-- Both leave a clean tree as it is. -/
theorem cleaned_of_clean {nodes : List Node} (h : Clean nodes) :
    prune (dropDeclarations nodes) = nodes := by
  rw [dropDeclarations_eq_self nodes h.noDeclaration, prune, pruneNodes_eq_self nodes h.pruned]

end EpubLibrary.Html
