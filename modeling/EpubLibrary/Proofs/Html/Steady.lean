import EpubLibrary.Proofs.Html.Joined

/-!
# Trees whose markup is steady

Everything that keeps a printed tree from reading as what it was, each for a reason of its own:

* a carriage return is a line feed to the reader (`noReturn`);
* blanks and further document types in front of the first element are not read as such
  (`isPrologue`);
* text is escaped in elements where the reader takes it as it stands, and some elements are not
  ended by their end tag (`PrintsBack`);
* blank texts side by side read as one (`isSpread`).
-/

namespace EpubLibrary.Html

def textReadsBack (name : String) (s : List Char) : Bool :=
  match reading name with
  | .markup | .replaceable => true
  | .raw => name = "style" || escapeText s == s
  | .script => scriptLength .plain (s ++ "</script>".toList) = s.length
  | .verbatim => false

/-- Does a child of an element read back, as far as this depends on the element? -/
def childReadsBack (name : String) : Node → Bool
  | .text .doctype _ => false
  | .text _ s => textReadsBack name s.toList
  | .element .. => true

/-- Is the node no element whose end tag or text reads otherwise? -/
def PrintsBack : Node → Prop
  | .text .. => True
  | .element name _ children =>
    reading name ≠ .verbatim ∧ children.all (childReadsBack name) = true

def typeReadsBack (s : String) : Bool := (Doctype.read (s.toList ++ ['>'])).1.toText = s

def isDoctype : Node → Bool
  | .text .doctype _ => true
  | _ => false

/-- Do only comments and at most one document type stand before the first element, and no document
type behind it? -/
def isPrologue (typed : Bool) : List Node → Bool
  | [] => true
  | .text .comment _ :: rest => isPrologue typed rest
  | .text .doctype s :: rest => !typed && typeReadsBack s && isPrologue true rest
  | .text .. :: _ => false
  | .element .. :: rest => !rest.any isDoctype

/-- A tree of which nothing is read otherwise than it was printed. -/
structure Steady (nodes : List Node) : Prop where
  noReturn : '\r' ∉ render nodes
  prologue : isPrologue false nodes = true
  printsBack : Everywhere PrintsBack nodes
  spread : isSpread false nodes = true

/-! ## Decidability -/

instance : DecidablePred PrintsBack
  | .text .. => isTrue trivial
  | .element .. => inferInstanceAs (Decidable (_ ∧ _))

instance (nodes : List Node) : Decidable (Steady nodes) :=
  decidable_of_iff ('\r' ∉ render nodes ∧ isPrologue false nodes = true ∧
      Everywhere PrintsBack nodes ∧ isSpread false nodes = true)
    ⟨fun ⟨a, b, c, d⟩ => ⟨a, b, c, d⟩, fun ⟨a, b, c, d⟩ => ⟨a, b, c, d⟩⟩

/-! ## Joining keeps a tree steady -/

theorem all_joinNode {p : Node → Bool}
    (shown : ∀ kind s, kind.isShown = true → p (.text kind s) = true)
    {node : Node} {rest : List Node} (hn : p node = true) (hr : rest.all p = true) :
    (joinNode node rest).all p = true := by
  rcases joinNode_cases node rest with ⟨kind, s, kind', t, behind, rfl, rfl, hk, -, e⟩ | ⟨-, e⟩ <;>
    rw [e, List.all_cons, Bool.and_eq_true]
  · rw [List.all_cons, Bool.and_eq_true] at hr
    exact ⟨shown kind _ hk, hr.2⟩
  · exact ⟨hn, hr⟩

theorem all_joined {p : Node → Bool}
    (shown : ∀ kind s, kind.isShown = true → p (.text kind s) = true)
    (elements : ∀ node, p node = true → p node.joined = true) {nodes : List Node}
    (h : nodes.all p = true) : (joined nodes).all p = true := by
  induction nodes with
  | nil => rfl
  | cons node rest ih =>
    rw [List.all_cons, Bool.and_eq_true] at h
    exact all_joinNode shown (elements node h.1) (ih h.2)

theorem childReadsBack_markup {name : String} (h : reading name = .markup) (node : Node) :
    childReadsBack name node = !isDoctype node := by
  cases node with
  | element => rfl
  | text kind s => cases kind <;> simp [childReadsBack, isDoctype, textReadsBack, h]

theorem all_not_isDoctype_joined {nodes : List Node}
    (h : nodes.all (fun node => !isDoctype node) = true) :
    (joined nodes).all (fun node => !isDoctype node) = true := by
  refine all_joined ?_ ?_ h
  · intro kind s shown
    cases kind <;> first | rfl | cases shown
  · intro node h
    cases node with
    | element => rfl
    | text => exact h

theorem childReadsBack_joined {name : String} {children : List Node}
    (raw : reading name ≠ .markup → RawFits name children)
    (h : children.all (childReadsBack name) = true) :
    (joined children).all (childReadsBack name) = true := by
  by_cases markup : reading name = .markup
  · have same : childReadsBack name = fun node => !isDoctype node :=
      funext (childReadsBack_markup markup)
    rw [same] at h ⊢
    exact all_not_isDoctype_joined h
  · match children, raw markup with
    | [], _ => rfl
    | [.text _ _], _ => exact h

theorem printsBack_joined {a : Around} {nodes : List Node} (hf : Fits a nodes)
    (h : Everywhere PrintsBack nodes) : Everywhere PrintsBack (joined nodes) :=
  Everywhere.joined (fun _ _ _ => trivial) (fun _ _ _ => trivial)
    (fun _ _ _ _ fits _ back => ⟨back.1, childReadsBack_joined fits.raw back.2⟩) nodes hf h

theorem joinNode_unshown {kind : TextKind} (h : kind.isShown = false) (s : String)
    (rest : List Node) : joinNode (.text kind s) rest = .text kind s :: rest := by
  rcases joinNode_cases (.text kind s) rest with ⟨_, _, _, _, _, e, -, shown, -⟩ | ⟨-, e⟩
  · cases e
    exact absurd shown (by simp [h])
  · exact e

theorem isPrologue_joined {typed : Bool} {nodes : List Node} (h : isPrologue typed nodes = true) :
    isPrologue typed (joined nodes) = true := by
  induction nodes generalizing typed with
  | nil => rfl
  | cons node rest ih =>
    cases node with
    | element name attributes children =>
      have behind : rest.all (fun node => !isDoctype node) = true := by
        rw [← List.not_any_eq_all_not]
        exact h
      have := all_not_isDoctype_joined behind
      rw [← List.not_any_eq_all_not] at this
      exact this
    | text kind s =>
      cases kind with
      | comment =>
        rw [joined, Node.joined, joinNode_unshown rfl]
        exact ih h
      | doctype =>
        rw [isPrologue, Bool.and_eq_true] at h
        rw [joined, Node.joined, joinNode_unshown rfl]
        exact Bool.and_eq_true_iff.2 ⟨h.1, ih h.2⟩
      | _ => cases h

end EpubLibrary.Html
