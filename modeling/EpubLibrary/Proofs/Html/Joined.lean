import EpubLibrary.Proofs.Html.Fits

namespace EpubLibrary.Html

/-! ## Joined trees -/

/-- A node in front of others, joined to the first of them if both are text that shows. -/
def joinNode : Node → List Node → List Node
  | .text kind s, .text kind' t :: rest =>
    if kind.isShown && kind'.isShown then .text kind (s ++ t) :: rest
    else .text kind s :: .text kind' t :: rest
  | node, rest => node :: rest

mutual

def Node.joined : Node → Node
  | .text kind s => .text kind s
  | .element name attributes children =>
    .element name (keptAttributes name (writtenAttributes name attributes)) (joined children)

/-- The nodes with adjacent texts joined and with attributes as they are written, at any depth. -/
def joined : List Node → List Node
  | [] => []
  | node :: rest => joinNode node.joined (joined rest)

end

theorem escapeText_append (s t : List Char) : escapeText (s ++ t) = escapeText s ++ escapeText t :=
  List.flatMap_append

/-- Text that shows is written the same whatever its kind. -/
theorem renderText_shown {kind : TextKind} (h : kind.isShown = true) (parent : String)
    (s : List Char) :
    renderText kind parent s = if parent = "script" ∨ parent = "style" then s else escapeText s := by
  cases kind <;> first | rfl | cases h

theorem renderNodes_joinNode (parent : String) (node : Node) (rest : List Node) :
    renderNodes parent (joinNode node rest) = renderNode parent node ++ renderNodes parent rest := by
  unfold joinNode
  split
  · next kind s kind' t rest =>
    split
    · next shown =>
      obtain ⟨h, h'⟩ := Bool.and_eq_true_iff.1 shown
      simp only [renderNodes, renderNode, renderText_shown h, renderText_shown h',
        String.toList_append, ← List.append_assoc]
      split <;> simp [escapeText_append]
    · rfl
  · rfl

theorem joinNode_ne_nil (node : Node) (rest : List Node) : joinNode node rest ≠ [] := by
  unfold joinNode
  split
  · split <;> exact List.cons_ne_nil _ _
  · exact List.cons_ne_nil _ _

theorem isEmpty_joined (nodes : List Node) : (joined nodes).isEmpty = nodes.isEmpty := by
  cases nodes with
  | nil => rfl
  | cons node rest => simp [joined, joinNode_ne_nil]

theorem writtenAttributes_joined {a : Around} {name : String} {attributes : List (String × Value)}
    {children : List Node} (h : ElementFits a name attributes children) :
    writtenAttributes name (keptAttributes name (writtenAttributes name attributes)) =
      writtenAttributes name attributes := by
  obtain ⟨raw, readable, rfl⟩ := h.kept
  exact writtenAttributes_kept readable name

mutual

theorem renderNode_joined (parent : String) {a : Around} :
    ∀ node : Node, node.Fits a → renderNode parent node.joined = renderNode parent node
  | .text _ _, _ => rfl
  | .element name attributes children, h => by
    simp only [Node.joined, renderNode, renderOpening, writtenAttributes_joined h.1, isEmpty_joined,
      renderNodes_joined name children h.2]

theorem renderNodes_joined (parent : String) {a : Around} :
    ∀ nodes : List Node, Fits a nodes → renderNodes parent (joined nodes) = renderNodes parent nodes
  | [], _ => rfl
  | node :: rest, h => by
    rw [joined, renderNodes_joinNode, renderNode_joined parent node h.1,
      renderNodes_joined parent rest h.2, renderNodes]

end

/-- A joined tree prints as the tree does. -/
theorem render_joined {nodes : List Node} (h : Fits .root nodes) :
    render (joined nodes) = render nodes :=
  renderNodes_joined "" nodes h


/-! ## Texts that stand apart -/

def isShownText : Node → Bool
  | .text kind _ => kind.isShown
  | .element .. => false

/-- No two texts that show stand side by side. -/
def Apart : List Node → Prop
  | [] => True
  | node :: rest => (isShownText node = true → rest.head?.any isShownText = false) ∧ Apart rest

/-- An element that joining leaves as it is. -/
def Settled : Node → Prop
  | .text .. => True
  | .element name attributes children =>
    keptAttributes name (writtenAttributes name attributes) = attributes ∧ Apart children

/-- What joining makes of two nodes: one text, or the nodes themselves. -/
theorem joinNode_cases (node : Node) (rest : List Node) :
    (∃ kind s kind' t behind, node = .text kind s ∧ rest = .text kind' t :: behind ∧
      kind.isShown = true ∧ kind'.isShown = true ∧
      joinNode node rest = .text kind (s ++ t) :: behind) ∨
    ((isShownText node = true → rest.head?.any isShownText = false) ∧
      joinNode node rest = node :: rest) := by
  unfold joinNode
  split
  · next kind s kind' t behind =>
    split
    · next shown =>
      obtain ⟨h, h'⟩ := Bool.and_eq_true_iff.1 shown
      exact .inl ⟨kind, s, kind', t, behind, rfl, rfl, h, h', rfl⟩
    · next unshown =>
      refine .inr ⟨fun h => ?_, rfl⟩
      simpa [isShownText, show kind.isShown = true from h] using unshown
  · next other =>
    refine .inr ⟨fun h => ?_, rfl⟩
    cases node with
    | element => cases h
    | text kind s =>
      cases rest with
      | nil => rfl
      | cons first behind =>
        cases first with
        | element => rfl
        | text kind' t => exact absurd rfl (other kind s kind' t behind rfl)

theorem Apart.joinNode {rest : List Node} (h : Apart rest) (node : Node) :
    Apart (joinNode node rest) := by
  rcases joinNode_cases node rest with ⟨kind, s, kind', t, behind, rfl, rfl, hk, hk', e⟩ | ⟨apart, e⟩
  · rw [e]
    exact ⟨fun _ => h.1 hk', h.2⟩
  · rw [e]
    exact ⟨apart, h⟩

/-- After joining, texts that show stand apart. -/
theorem apart_joined (nodes : List Node) : Apart (joined nodes) := by
  induction nodes with
  | nil => trivial
  | cons node rest ih => exact ih.joinNode node.joined

/-- A property that every text has passes on to a list with joined texts. -/
theorem Everywhere.joinNode {p : Node → Prop}
    (texts : ∀ kind s, kind.isShown = true → p (.text kind s)) {node : Node} {rest : List Node}
    (hn : node.Everywhere p) (hr : Everywhere p rest) :
    Everywhere p (joinNode node rest) := by
  rcases joinNode_cases node rest with ⟨kind, s, kind', t, behind, rfl, rfl, hk, hk', e⟩ | ⟨-, e⟩ <;>
    rw [e]
  · exact ⟨texts kind _ hk, hr.2⟩
  · exact ⟨hn, hr⟩

mutual

/-- A property of a tree passes on to the joined tree, changed or not, if it does so from every
element and from every text. -/
theorem Node.Everywhere.joined {p q : Node → Prop}
    (shown : ∀ kind s, kind.isShown = true → q (.text kind s))
    (texts : ∀ kind s, p (.text kind s) → q (.text kind s))
    (elements : ∀ a name attributes children, ElementFits a name attributes children →
      Fits (a.enter name) children → p (.element name attributes children) →
      q (Node.joined (.element name attributes children))) {a : Around} :
    ∀ node : Node, node.Fits a → node.Everywhere p → node.joined.Everywhere q
  | .text kind s, _, h => texts kind s h
  | .element name attributes children, hf, h =>
    ⟨elements a name attributes children hf.1 hf.2 h.1,
      Everywhere.joined shown texts elements children hf.2 h.2⟩

theorem Everywhere.joined {p q : Node → Prop}
    (shown : ∀ kind s, kind.isShown = true → q (.text kind s))
    (texts : ∀ kind s, p (.text kind s) → q (.text kind s))
    (elements : ∀ a name attributes children, ElementFits a name attributes children →
      Fits (a.enter name) children → p (.element name attributes children) →
      q (Node.joined (.element name attributes children))) {a : Around} :
    ∀ nodes : List Node, Fits a nodes → Everywhere p nodes → Everywhere q (joined nodes)
  | [], _, _ => trivial
  | node :: rest, hf, h =>
    Everywhere.joinNode shown (Node.Everywhere.joined shown texts elements node hf.1 h.1)
      (Everywhere.joined shown texts elements rest hf.2 h.2)

end

mutual

theorem Node.everywhere_true : ∀ node : Node, node.Everywhere fun _ => True
  | .text _ _ => trivial
  | .element _ _ children => ⟨trivial, everywhere_true children⟩

theorem everywhere_true : ∀ nodes : List Node, Everywhere (fun _ => True) nodes
  | [] => trivial
  | node :: rest => ⟨node.everywhere_true, everywhere_true rest⟩

end

theorem settled_joined {a : Around} {nodes : List Node} (h : Fits a nodes) :
    Everywhere Settled (joined nodes) := by
  refine Everywhere.joined (fun _ _ _ => trivial) (fun _ _ _ => trivial) ?_ nodes h
    (everywhere_true nodes)
  intro a name attributes children fits _ _
  exact ⟨by rw [writtenAttributes_joined fits], apart_joined children⟩

/-! ## Clean trees stay clean -/

theorem isBlankText_append {kind : TextKind} (s t : String) :
    isBlankText (.text kind (s ++ t)) =
      (isBlankText (.text kind s) && isBlankText (.text kind t)) := by
  simp [isBlankText, Text.allBlank, Bool.or_and_distrib_left]

/-- Texts that stand side by side are of one kind. -/
theorem shown_kind {a : Around} {kind : TextKind} {s : String} (h : (Node.text kind s).Fits a)
    (shown : kind.isShown = true) : kind = a.textKind := by
  cases kind <;> first | exact h.1 | cases shown

theorem head_joined_text {kind : TextKind} {t : String} {nodes behind : List Node}
    (h : joined nodes = .text kind t :: behind) :
    ∃ u rest, nodes = .text kind u :: rest ∧ ∃ v, t = u ++ v := by
  cases nodes with
  | nil => cases h
  | cons node rest =>
    rw [joined] at h
    cases node with
    | element name attributes children =>
      rcases joinNode_cases (Node.element name attributes children).joined (joined rest) with
        ⟨_, _, _, _, _, e, -⟩ | ⟨-, e⟩
      · cases e
      · rw [e] at h
        cases h
    | text kind' u =>
      rcases joinNode_cases (Node.text kind' u).joined (joined rest) with
        ⟨_, _, _, v, _, e, -, -, -, e'⟩ | ⟨-, e⟩
      · cases e
        rw [e'] at h
        cases h
        exact ⟨_, rest, rfl, v, rfl⟩
      · rw [e] at h
        cases h
        exact ⟨_, rest, rfl, "", by simp⟩

theorem kind_of_head_joined {a : Around} {kind : TextKind} {t : String} {nodes behind : List Node}
    (h : joined nodes = .text kind t :: behind) (hf : Fits a nodes) (shown : kind.isShown = true) :
    kind = a.textKind := by
  obtain ⟨u, rest, rfl, -⟩ := head_joined_text h
  exact shown_kind hf.1 shown

theorem all_isBlankText_joined {a : Around} {nodes : List Node} (h : Fits a nodes) :
    (joined nodes).all isBlankText = nodes.all isBlankText := by
  induction nodes generalizing a with
  | nil => rfl
  | cons node rest ih =>
    have same : isBlankText node.joined = isBlankText node := by cases node <;> rfl
    have behind := ih h.2
    rw [joined, List.all_cons, ← behind, ← same]
    rcases joinNode_cases node.joined (joined rest) with
      ⟨kind, s, kind', t, more, e, e', hk, hk', j⟩ | ⟨-, j⟩
    · cases node with
      | element => cases e
      | text kind₀ s₀ =>
        cases e
        have first := shown_kind h.1 hk
        have second := kind_of_head_joined e' h.2 hk'
        rw [Around.past] at second
        rw [j, e', List.all_cons, List.all_cons, isBlankText_append, Node.joined,
          second, first, Bool.and_assoc]
    · rw [j, List.all_cons]

theorem toText_attribute? (attributes : List (String × Value)) (name : String) :
    (attribute? attributes name).map Value.toText =
      (attributes.map fun a => (a.1, a.2.toText)).lookup name := by
  induction attributes with
  | nil => rfl
  | cons a rest ih =>
    rw [List.map_cons, lookup_cons_eq, ← ih]
    by_cases same : a.1 = name
    · simp [attribute?, same]
    · simp [attribute?, same, Ne.symm same]

/-- The texts of the values as written, where there is no encoding to declare. -/
theorem attribute?_written {element : String} {raw : Attributes} (h : raw.Readable)
    (notMeta : element ≠ "meta") (name : String) :
    (attribute? (keptAttributes element (writtenAttributes element (keptAttributes element raw)))
        name).map Value.toText =
      (attribute? (keptAttributes element raw) name).map Value.toText := by
  have perm : (writtenAttributes element (keptAttributes element raw)).Perm
      (shownAttributes element raw) := by
    rw [writtenAttributes_eq, if_neg notMeta]
    exact perm_sortAttributes _
  have shown : Shown element (writtenAttributes element (keptAttributes element raw)) :=
    fun a ha => shown_shownAttributes element raw a (perm.subset ha)
  have texts (attributes : Attributes) :
      (keptAttributes element attributes).map (fun a => (a.1, a.2.toText)) =
        shownAttributes element attributes := by
    rw [keptAttributes, List.map_map]
    rfl
  rw [toText_attribute?, toText_attribute?, texts, texts, shownAttributes_eq_self shown]
  exact lookup_perm perm (h.written element).distinct name

theorem isTarget_written {name : String} {raw : Attributes} (h : raw.Readable)
    (notMeta : name ≠ "meta") :
    isTarget name (keptAttributes name (writtenAttributes name (keptAttributes name raw))) =
      isTarget name (keptAttributes name raw) := by
  have any (v : Option Value) : v.any (·.toText ≠ "") = (v.map Value.toText).any (· ≠ "") := by
    cases v <;> rfl
  simp only [isTarget, any, attribute?_written h notMeta]

/-- Joining leaves a clean tree clean. -/
theorem clean_joined {a : Around} {nodes : List Node} (hf : Fits a nodes) (h : Clean nodes) :
    Clean (joined nodes) where
  noDeclaration := by
    refine Everywhere.joined ?_ (fun _ _ h => h) (fun _ _ _ _ _ _ _ => rfl) nodes hf h.noDeclaration
    intro kind s shown
    cases kind <;> first | rfl | cases shown
  pruned := by
    refine Everywhere.joined (fun _ _ _ => rfl) (fun _ _ h => h) ?_ nodes hf h.pruned
    intro a name attributes children fits below stays
    obtain ⟨raw, readable, rfl⟩ := fits.kept
    simp only [NotRemovable, isRemovableNode, Node.joined, isRemovable,
      all_isBlankText_joined below] at stays ⊢
    -- Only a `meta` element is written with other values, and none is ever removed.
    by_cases notMeta : name = "meta"
    · subst notMeta
      rfl
    · rwa [isTarget_written readable notMeta]

/-! ## Blank texts that stand apart -/

def isBlankShown : Node → Bool
  | .text kind s => kind.isShown && s.toList.all isSpace
  | .element .. => false

mutual

def Node.isSpread (keeps : Bool) : Node → Bool
  | .text .. => true
  | .element name _ children => isSpread (keeps || keepsBlanks name) children

/-- Do no two blank texts stand side by side, except where blanks are kept? -/
def isSpread (keeps : Bool) : List Node → Bool
  | [] => true
  | node :: rest =>
    node.isSpread keeps && (keeps || !(isBlankShown node && rest.head?.any isBlankShown)) &&
      isSpread keeps rest

end

theorem Around.keeps_enter (a : Around) (name : String) :
    (a.enter name).keeps = (a.keeps || keepsBlanks name) := by
  rw [Around.keeps, Around.enter, List.any_cons, Bool.or_comm, Around.keeps]

@[simp] theorem Around.keeps_past (a : Around) (node : Node) : (a.past node).keeps = a.keeps := by
  rw [Around.keeps, Around.past_stack, Around.keeps]

theorem Around.pastAll_joinNode (a : Around) (node : Node) (rest : List Node) :
    a.pastAll (joinNode node rest) = (a.past node).pastAll rest := by
  rcases joinNode_cases node rest with ⟨_, _, _, _, _, rfl, rfl, -, -, e⟩ | ⟨-, e⟩ <;> rw [e] <;> rfl

mutual

@[simp] theorem Around.past_joined (a : Around) : ∀ node : Node, a.past node.joined = a.past node
  | .text _ _ => rfl
  | .element name _ children => by
    rw [Node.joined, Around.past, Around.past, Around.pastAll_joined _ children]

@[simp] theorem Around.pastAll_joined (a : Around) :
    ∀ nodes : List Node, a.pastAll (joined nodes) = a.pastAll nodes
  | [] => rfl
  | node :: rest => by
    rw [joined, Around.pastAll_joinNode, Around.past_joined a node, Around.pastAll_joined _ rest,
      Around.pastAll]

end

/-- A text that is not joined from blank texts alone. -/
theorem TextFits.append {a : Around} {kind : TextKind} {s t : List Char}
    (shown : kind.isShown = true) (hs : TextFits a kind s) (ht : TextFits a kind t)
    (apart : a.keeps = true ∨ s.all isSpace = false ∨ t.all isSpace = false) :
    TextFits a kind (s ++ t) := by
  have collapsed : a.Collapsed (s ++ t) := by
    intro blank loses
    rw [List.all_append, Bool.and_eq_true] at blank
    simp [loses, blank.1, blank.2] at apart
  obtain ⟨same, there, noNull, takes, -⟩ := (textFits_iff shown).1 hs
  obtain ⟨-, -, noNull', takes', -⟩ := (textFits_iff shown).1 ht
  exact (textFits_iff shown).2
    ⟨same, by simp [there], by simp [noNull, noNull'], takes.append takes', collapsed⟩

theorem Fits.joinNode {a : Around} {node : Node} {rest : List Node} (hn : node.Fits a)
    (hr : Fits (a.past node) rest)
    (apart : a.keeps = true ∨ (isBlankShown node && rest.head?.any isBlankShown) = false) :
    Fits a (joinNode node rest) := by
  rcases joinNode_cases node rest with ⟨kind, s, kind', t, behind, rfl, rfl, hk, hk', e⟩ | ⟨-, e⟩ <;>
    rw [e]
  · have same : kind' = kind := (shown_kind hr.1 hk').trans (shown_kind hn hk).symm
    subst same
    refine ⟨?_, hr.2⟩
    rw [Node.Fits, String.toList_append]
    refine TextFits.append hk hn hr.1 ?_
    rw [← Bool.and_eq_false_iff]
    simpa only [isBlankShown, hk, hk', Bool.true_and, List.head?_cons, Option.any_some] using apart
  · exact ⟨hn, hr⟩

theorem rawFits_joined {name : String} {children : List Node} (h : RawFits name children) :
    RawFits name (joined children) := by
  match children, h with
  | [], _ => trivial
  | [.text _ _], h => exact h

theorem isBlankShown_head_joined {nodes : List Node}
    (h : (joined nodes).head?.any isBlankShown = true) : nodes.head?.any isBlankShown = true := by
  cases e : joined nodes with
  | nil => simp [e] at h
  | cons node behind =>
    rw [e] at h
    cases node with
    | element => simp [isBlankShown] at h
    | text kind t =>
      obtain ⟨u, rest, rfl, v, rfl⟩ := head_joined_text e
      simp_all [isBlankShown]

mutual

/-- A node fits when it is joined, if no blank texts in it would become one. -/
theorem Node.Fits.joined {a : Around} :
    ∀ node : Node, node.Fits a → node.isSpread a.keeps = true → node.joined.Fits a
  | .text _ _, h, _ => h
  | .element name attributes children, h, spread => by
    obtain ⟨raw, readable, kept⟩ := h.1.kept
    have below : isSpread (a.enter name).keeps children = true := by
      rwa [Around.keeps_enter]
    refine ⟨⟨h.1.named, ⟨_, kept ▸ readable.written name, rfl⟩, h.1.admitted, fun void => ?_,
      fun raw => rawFits_joined (h.1.raw raw)⟩, Fits.joined children h.2 below⟩
    rw [h.1.void void]
    rfl

/-- Joining texts leaves a tree as the reader builds it, unless a run of blanks was joined. -/
theorem Fits.joined {a : Around} :
    ∀ nodes : List Node, Fits a nodes → isSpread a.keeps nodes = true → Fits a (joined nodes)
  | [], _, _ => trivial
  | node :: rest, h, spread => by
    simp only [isSpread, Bool.and_eq_true, Bool.or_eq_true, Bool.not_eq_true'] at spread
    obtain ⟨⟨inner, apart⟩, outer⟩ := spread
    have first := Node.Fits.joined node h.1 inner
    have behind : Fits (a.past node) (joined rest) :=
      Fits.joined rest h.2 (by rwa [Around.keeps_past])
    refine Fits.joinNode first (by rwa [Around.past_joined]) (apart.imp_right fun apart => ?_)
    have same : isBlankShown node.joined = isBlankShown node := by cases node <;> rfl
    rw [same, Bool.and_eq_false_iff] at *
    refine apart.imp_right fun lone => ?_
    rw [Bool.eq_false_iff] at lone ⊢
    exact fun h => lone (isBlankShown_head_joined h)

end

end EpubLibrary.Html
