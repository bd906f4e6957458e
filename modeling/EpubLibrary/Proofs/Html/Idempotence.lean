import EpubLibrary.Proofs.Html.Parsed
import EpubLibrary.Proofs.Html.ReadBack

namespace EpubLibrary.Html

/-! ## Cleaning a tree that fits -/

theorem ElementFits.fewer {a : Around} {name : String} {attributes : List (String × Value)}
    {children kept : List Node} (h : ElementFits a name attributes children)
    (void : children = [] → kept = []) (raw : RawFits name children → RawFits name kept) :
    ElementFits a name attributes kept :=
  ⟨h.named, h.kept, h.admitted, fun isVoid => void (h.void isVoid), fun isRaw => raw (h.raw isRaw)⟩

mutual

theorem past_withoutDeclarations (a : Around) :
    ∀ node : Node, a.past (withoutDeclarations node) = a.past node
  | .text _ _ => rfl
  | .element name _ children => by
    rw [withoutDeclarations, Around.past, Around.past, pastAll_dropDeclarations _ children]

theorem pastAll_dropDeclarations (a : Around) :
    ∀ nodes : List Node, a.pastAll (dropDeclarations nodes) = a.pastAll nodes
  | [] => rfl
  | node :: rest => by
    rw [dropDeclarations]
    split
    · next dropped =>
      cases node with
      | element => cases dropped
      | text => exact pastAll_dropDeclarations a rest
    · rw [Around.pastAll, Around.pastAll, past_withoutDeclarations a node,
        pastAll_dropDeclarations _ rest]

end

theorem rawFits_dropDeclarations {name : String} {children : List Node}
    (h : RawFits name children) : RawFits name (dropDeclarations children) := by
  match children, h with
  | [], _ => trivial
  | [.text _ _], h =>
    rw [dropDeclarations, dropDeclarations]
    split
    · trivial
    · exact h

mutual

theorem Node.Fits.withoutDeclarations {a : Around} :
    ∀ node : Node, node.Fits a → (withoutDeclarations node).Fits a
  | .text _ _, h => h
  | .element _ _ children, h =>
    ⟨h.1.fewer (fun none => by rw [none, dropDeclarations]) rawFits_dropDeclarations,
      Fits.dropDeclarations children h.2⟩

theorem Fits.dropDeclarations {a : Around} :
    ∀ nodes : List Node, Fits a nodes → Fits a (dropDeclarations nodes)
  | [], _ => trivial
  | node :: rest, h => by
    rw [Html.dropDeclarations]
    split
    · next dropped =>
      cases node with
      | element => cases dropped
      | text => exact Fits.dropDeclarations rest h.2
    · refine ⟨Node.Fits.withoutDeclarations node h.1, Fits.dropDeclarations rest ?_⟩
      rw [past_withoutDeclarations]
      exact h.2

end

theorem pastAll_texts {nodes : List Node} (h : nodes.all isBlankText = true) (a : Around) :
    a.pastAll nodes = a := by
  induction nodes with
  | nil => rfl
  | cons node rest ih =>
    rw [List.all_cons, Bool.and_eq_true] at h
    cases node with
    | element => cases h.1
    | text => exact ih h.2

/-- No outermost element is ever removed. -/
theorem enter_of_isPrunable {name : String} (h : isPrunable name = true) (a : Around) :
    (a.enter name).leave a = a := by
  have inner : name ≠ "head" ∧ name ≠ "body" := by
    constructor <;> (rintro rfl; exact absurd h (by decide))
  simp [Around.enter, Around.leave, inner]

mutual

/-- A node that is removed leaves no trace of having been seen. -/
theorem past_pruneNode (a : Around) :
    ∀ node : Node, a.pastAll (pruneNode node).toList = a.past node
  | .text _ _ => rfl
  | .element name attributes children => by
    have below := pastAll_pruneNodes (a.enter name) children
    rw [pruneNode]
    split
    · next removed =>
      rw [isRemovable, Bool.and_eq_true, Bool.and_eq_true] at removed
      rw [pastAll_texts removed.2] at below
      rw [Around.past, ← below, enter_of_isPrunable removed.1.1]
      rfl
    · change ((a.enter name).pastAll (pruneNodes children)).leave a = _
      rw [below, Around.past]

theorem pastAll_pruneNodes (a : Around) :
    ∀ nodes : List Node, a.pastAll (pruneNodes nodes) = a.pastAll nodes
  | [] => rfl
  | node :: rest => by
    have first := past_pruneNode a node
    rw [pruneNodes, Around.pastAll, ← first, ← pastAll_pruneNodes _ rest]
    split
    · next kept e => rw [e]; rfl
    · next e => rw [e]; rfl

end

theorem rawFits_pruneNodes {name : String} {children : List Node} (h : RawFits name children) :
    RawFits name (pruneNodes children) := by
  match children, h with
  | [], _ => trivial
  | [.text _ _], h => exact h

mutual

theorem Node.Fits.pruneNode {a : Around} :
    ∀ node kept : Node, node.Fits a → pruneNode node = some kept → kept.Fits a
  | .text _ _, _, h, e => by
    obtain rfl := Option.some.inj e
    exact h
  | .element name attributes children, kept, h, e => by
    simp only [Html.pruneNode] at e
    split at e
    · cases e
    · obtain rfl := Option.some.inj e
      exact ⟨h.1.fewer (fun none => by rw [none, pruneNodes]) rawFits_pruneNodes,
        Fits.pruneNodes children h.2⟩

theorem Fits.pruneNodes {a : Around} :
    ∀ nodes : List Node, Fits a nodes → Fits a (pruneNodes nodes)
  | [], _ => trivial
  | node :: rest, h => by
    have behind := Fits.pruneNodes rest h.2
    -- What follows a removed node stands where that node stood.
    rw [← past_pruneNode] at behind
    rw [Html.pruneNodes]
    split
    · next kept e =>
      rw [e] at behind
      exact ⟨Node.Fits.pruneNode node kept h.1 e, behind⟩
    · next e => rwa [e] at behind

end

/-- A tree that fits where it stands, with nothing left to clean. -/
structure Normal (nodes : List Node) : Prop where
  fits : Fits .root nodes
  clean : Clean nodes

theorem Fits.normal {nodes : List Node} (h : Fits .root nodes) :
    Normal (prune (Html.dropDeclarations nodes)) where
  fits := (h.dropDeclarations _).pruneNodes _
  clean := clean_prune nodes

/-- Both clean-ups leave a parsed tree fitting where it stands. -/
theorem normal_normalTree (markup : List Char) : Normal (normalTree markup) :=
  (fits_parse _).normal

/-! ## Reading a normal form -/

/-- The markup of a document begins with a tag. -/
theorem dropMark_render {nodes : List Node} (h : isPrologue false nodes = true) :
    dropMark (render nodes) = render nodes := by
  have head : nodes.head?.any isShownText = false := by
    cases nodes with
    | nil => rfl
    | cons node rest =>
      cases node with
      | element => rfl
      | text kind s => cases kind <;> first | rfl | cases h
  have opens := opens_renderNodes "" head (.inl rfl : Opens [])
  rw [List.append_nil] at opens
  rcases opens with e | ⟨s, e⟩ <;> rw [render, e] <;> rfl

/-- A steady tree that fits reads back, but for texts that are joined. -/
theorem parse_render_joined {nodes : List Node} (fits : Fits .root nodes) (steady : Steady nodes) :
    parse (dropMark (render nodes)) = joined nodes := by
  have same := render_joined fits
  rw [dropMark_render steady.prologue, ← same]
  refine parse_render (Fits.joined _ fits steady.spread) ?_ (isPrologue_joined steady.prologue)
    (printsBack_joined fits steady.printsBack) (settled_joined fits) (apart_joined _)
  rw [same]
  exact steady.noReturn

/-- Neither clean-up finds anything in what a normal form describes, so it prints the same. -/
theorem Normal.render_normalTree {nodes : List Node} (h : Normal nodes) (steady : Steady nodes) :
    render (normalTree (render nodes)) = render nodes := by
  rw [normalTree, parse_render_joined h.fits steady, cleaned_of_clean (clean_joined h.fits h.clean),
    render_joined h.fits]

theorem toList_normalize (markup : String) :
    (normalize markup).toList = render (normalTree markup.toList) := by
  rw [normalize, String.toList_ofList]

/-- Where normalising bytes gives a text, it is the normal form of what they decode to. -/
theorem eq_normalize_of_ok {bytes : Bytes} {out : String} (h : normalizeBytes bytes = .ok out) :
    out = normalize (decodeMarkup bytes) := by
  cases stray : strayOf? bytes with
  | some found => simp [normalizeBytes, stray] at h
  | none =>
    simp only [normalizeBytes, stray] at h
    exact (Except.ok.inj h).symm

/-- A normal form is its own normal form if nothing in its tree reads otherwise than it is printed,
be it that of a text or of bytes. -/
theorem normalize_of_steady {markup : String} (steady : Steady (normalTree markup.toList)) :
    normalize (normalize markup) = normalize markup ∧
      ∀ bytes out, decodeMarkup bytes = markup → normalizeBytes bytes = .ok out →
        normalize out = out := by
  have settles : normalize (normalize markup) = normalize markup := by
    apply String.toList_inj.1
    rw [toList_normalize (normalize markup), toList_normalize markup]
    exact (normal_normalTree markup.toList).render_normalTree steady
  refine ⟨settles, fun bytes out decoded done => ?_⟩
  have spelled : out = normalize markup := by
    rw [← decoded]
    exact eq_normalize_of_ok done
  rw [spelled]
  exact settles

theorem normalize_page :
    Steady (normalTree "<!DOCTYPE html><p id=x>a<br> <b>b</b><i></i><!--c-->".toList) ∧
      normalize (normalize "<!DOCTYPE html><p id=x>a<br> <b>b</b><i></i><!--c-->") =
        normalize "<!DOCTYPE html><p id=x>a<br> <b>b</b><i></i><!--c-->" := by
  have steady : Steady
      (normalTree "<!DOCTYPE html><p id=x>a<br> <b>b</b><i></i><!--c-->".toList) := by
    decide +kernel
  exact ⟨steady, (normalize_of_steady steady).1⟩

/-- A carriage return, blanks in front of the first element and text that is escaped where no markup
is read each read as something else. -/
example : ∀ markup ∈ ["<p>&#13;a</p>", "<!x> <p>a</p>", "<xmp>a<b</xmp>"],
    normalize (normalize markup) ≠ normalize markup := by
  decide +kernel

/-- The blanks around a removed paragraph stand side by side, and the second reading joins them. -/
theorem normalize_moves :
    normalize (normalize "<p>a</p> <p></p> <p>b</p>") ≠ normalize "<p>a</p> <p></p> <p>b</p>" := by
  decide +kernel

end EpubLibrary.Html
