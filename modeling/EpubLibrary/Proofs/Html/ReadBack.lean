import EpubLibrary.Proofs.Html.Building
import EpubLibrary.Proofs.Html.Steady
import EpubLibrary.Proofs.Html.Steps

namespace EpubLibrary.Html

/-! ## Texts -/

/-- What stands behind a text: a tag, or nothing. -/
def Opens (s : List Char) : Prop := s = [] ∨ ∃ t, s = '<' :: t

theorem takeWhile_opens {s rest : List Char} (hs : '<' ∉ s) (h : Opens rest) :
    (s ++ rest).takeWhile (· ≠ '<') = s ∧ (s ++ rest).dropWhile (· ≠ '<') = rest := by
  have inside : ∀ c ∈ s, decide (c ≠ '<') = true := fun c hc => by
    simpa using ne_of_mem_of_not_mem hc hs
  rcases h with rfl | ⟨t, rfl⟩
  · rw [List.takeWhile_append_of_pos inside, List.dropWhile_append_of_pos inside]
    simp
  · exact ⟨takeWhile_append_stop inside (by simp), dropWhile_append_stop inside (by simp)⟩

theorem lt_not_mem_escapeText (s : List Char) : '<' ∉ escapeText s := by
  rw [escapeText, List.mem_flatMap]
  rintro ⟨c, -, written⟩
  rcases escapes_escapeChar c with ⟨notAmp, writes⟩ | ⟨e, he, -, writes⟩
  · rw [writes, List.mem_singleton] at written
    rw [← written] at writes
    exact absurd writes (by decide)
  · have : ∀ e ∈ escapes, '<' ∉ '&' :: e.1 := by decide
    exact this e he (writes ▸ written)

theorem null_not_mem_escapeText {s : List Char} (h : '\x00' ∉ s) : '\x00' ∉ escapeText s :=
  not_mem_flatMap_write escapes_escapeChar (by decide) h

theorem escapeText_eq_nil {s : List Char} (h : escapeText s = []) : s = [] := by
  rw [← decodeReferences_escapeText false s, h]
  rfl

theorem step_shown (b : Builder) {s rest : List Char} (hs : s ≠ []) (noNull : '\x00' ∉ s)
    (h : Opens rest) :
    step .content b (escapeText s ++ rest) = (.content, b.addText s, rest) := by
  have noTag := lt_not_mem_escapeText s
  have decodes : decodeReferences false ((escapeText s).map showNull) = s := by
    rw [map_showNull_eq_self (null_not_mem_escapeText noNull), decodeReferences_escapeText]
  cases written : escapeText s with
  | nil => exact absurd (escapeText_eq_nil written) hs
  | cons c t =>
    rw [written, List.mem_cons, not_or] at noTag
    obtain ⟨run, behind⟩ := takeWhile_opens noTag.2 h
    rw [List.cons_append, step_text b (Ne.symm noTag.1), run, behind, ← written, decodes]

/-! ## Elements without markup -/

theorem length_readRaw_le (b : Builder) (name : String) (s : List Char) :
    (readRaw b name s).2.length ≤ s.length := by
  unfold readRaw
  cases reading name <;> simp

def endTag (name : List Char) : List Char := '<' :: '/' :: name ++ ['>']

theorem startsWithTag_endTag {name : List Char} (h : name.map lower = name) (rest : List Char) :
    startsWithTag ['<', '/'] name (endTag name ++ rest) = true :=
  startsWithTag_iff.2 ⟨name, '>', rest, by simp [endTag], h, by decide⟩

/-- The content of an element without markup, and what of it is text. -/
theorem readRaw_render {name : String} {s : List Char} (raw : reading name ≠ .markup)
    (back : textReadsBack name s = true) (noNull : '\x00' ∉ s)
    (noEnd : reading name = .raw → NoEndTag name.toList s) (b : Builder) (rest : List Char) :
    readRaw b name ((if name = "script" ∨ name = "style" then s else escapeText s) ++
        (endTag name.toList ++ rest)) =
      (b.emitText s, endTag name.toList ++ rest) := by
  have named := rawName_of_reading raw
  have ends := startsWithTag_endTag named.lowered rest
  have split (t : List Char) (n : Nat) (hn : n = t.length) :
      (t ++ (endTag name.toList ++ rest)).take n = t ∧
        (t ++ (endTag name.toList ++ rest)).drop n = endTag name.toList ++ rest := by
    subst hn
    exact ⟨List.take_left, List.drop_left⟩
  have raws (t : List Char) (h : NoEndTag name.toList t) :
      rawLength name.toList (t ++ (endTag name.toList ++ rest)) = t.length :=
    rawLength_append named.plain h ends
  unfold readRaw
  unfold textReadsBack at back
  cases kind : reading name with
  | markup => exact absurd kind raw
  | replaceable =>
    have other : ¬ (name = "script" ∨ name = "style") := by
      rintro (rfl | rfl) <;> exact absurd kind (by decide)
    obtain ⟨text, behind⟩ := split (escapeText s) _
      (raws _ (.of_not_mem (lt_not_mem_escapeText s)))
    simp only [if_neg other, text, behind, map_showNull_eq_self (null_not_mem_escapeText noNull),
      decodeReferences_escapeText]
  | raw =>
    have written : (if name = "script" ∨ name = "style" then s else escapeText s) = s := by
      split_ifs with other
      · rfl
      · rw [kind] at back
        simpa [not_or.1 other] using back
    obtain ⟨text, behind⟩ := split s _ (raws s (noEnd kind))
    simp only [written, text, behind, map_showNull_eq_self noNull]
  | script =>
    obtain rfl := reading_script kind
    rw [kind] at back
    have length : scriptLength .plain (s ++ (endTag "script".toList ++ rest)) = s.length :=
      scriptLength_append (u := "/script>".toList) (by decide) ends (of_decide_eq_true back)
    obtain ⟨text, behind⟩ := split s _ length
    simp only [true_or, if_true, text, behind, map_showNull_eq_self noNull]
  | verbatim =>
    rw [kind] at back
    cases back

/-! ## Tags -/

theorem TagName.exists_cons {name : String} (h : TagName name) :
    ∃ c s, name.toList = c :: s ∧ isLetter c = true := by
  have begins := h.begins
  cases spelled : name.toList with
  | nil => simp [spelled] at begins
  | cons c s => exact ⟨c, s, rfl, by simpa [spelled] using begins⟩

/-- A printed start tag is read as that tag. -/
theorem step_startTag (stage : Stage) (b : Builder) {name : String} {attributes : Attributes}
    (hn : TagName name) (ha : attributes.Readable) {tail rest : List Char} {ending : TagEnd}
    (ends : tail = '>' :: rest ∧ ending = .closed ∨
      tail = '/' :: '>' :: rest ∧ ending = .selfClosed) :
    step stage b ('<' :: (name.toList ++ attributes.flatMap renderAttribute ++ tail)) =
      let opened := b.start ⟨name, attributes, ending⟩
      if opened.stack.head? = some name ∧ ending = .closed ∧ reading name ≠ .markup then
        (.content, readRaw opened name rest)
      else (.content, opened, rest) := by
  obtain ⟨c, s, spelled, letter⟩ := hn.exists_cons
  have tag := Tag.read_render hn ha ends
  rw [spelled, List.cons_append, List.cons_append] at tag ⊢
  rw [step_letter stage b letter, tag]

theorem step_closingTag (stage : Stage) (b : Builder) {name : String} (hn : TagName name)
    (rest : List Char) :
    step stage b (endTag name.toList ++ rest) = (.content, b.finish name, rest) := by
  obtain ⟨c, s, spelled, letter⟩ := hn.exists_cons
  have tag := Tag.read_render hn .nil (.inl ⟨rfl, rfl⟩ : '>' :: rest = '>' :: rest ∧ _ ∨ _)
  have written : endTag name.toList ++ rest = '<' :: '/' :: c :: (s ++ '>' :: rest) := by
    simp [endTag, spelled]
  rw [spelled, List.flatMap_nil, List.append_nil, List.cons_append] at tag
  rw [written, step_endTag stage b letter, tag]

theorem ElementFits.readable {a : Around} {name : String} {attributes : List (String × Value)}
    {children : List Node} (h : ElementFits a name attributes children) :
    (writtenAttributes name attributes).Readable := by
  obtain ⟨raw, readable, rfl⟩ := h.kept
  exact readable.written name

theorem isWrittenVoid_of_isVoid {name : String} (h : isVoid name = true) :
    isWrittenVoid name = true := by
  simp only [isVoid, List.contains_eq_mem, List.mem_cons, List.not_mem_nil, or_false,
    decide_eq_true_eq] at h
  rcases h with rfl | rfl | rfl | rfl | rfl | rfl | rfl | rfl | rfl | rfl | rfl | rfl | rfl <;>
    decide

/-! ## Nodes -/

/-- A node of which nothing is read otherwise than it was printed. -/
structure Node.Plain (a : Around) (node : Node) : Prop where
  fits : node.Fits a
  printsBack : node.Everywhere PrintsBack
  settled : node.Everywhere Settled
  noType : isDoctype node = false

structure Plain (a : Around) (nodes : List Node) : Prop where
  fits : Fits a nodes
  printsBack : Everywhere PrintsBack nodes
  settled : Everywhere Settled nodes
  noType : nodes.all (!isDoctype ·) = true
  apart : Apart nodes

/-- The reading goes on to `rest`, and by then the tree has grown by the nodes. -/
def Grows (p : Stage × Builder × List Char) (a : Around) (g : Growing) (nodes : List Node)
    (rest : List Char) : Prop :=
  ∃ b g', Reads p (.content, b, rest) ∧ Stands b (a.pastAll nodes) g' ∧
    g'.settle = g.settle.appendAll nodes ∧
    (nodes.getLast?.any isShownText = false → nodes ≠ [] → g'.pending = none)

section

variable {stage : Stage} {b : Builder} {a : Around} {g : Growing} {rest : List Char}

theorem isShown_of_textFits {kind : TextKind} {s : List Char} (h : TextFits a kind s)
    (closed : a.isOpen = false) : kind.isShown = true := by
  cases kind <;> first | rfl | exact h.elim | exact absurd h.1 (by simp [closed])

theorem textReadsBack_of_child {name s : String} {kind : TextKind} (shown : kind.isShown = true)
    (h : childReadsBack name (.text kind s) = true) : textReadsBack name s.toList = true := by
  cases kind <;> first | exact h | cases shown

/-- A printed text becomes one text of the tree. -/
theorem grows_text {parent : String} (outside : ¬ (parent = "script" ∨ parent = "style"))
    {kind : TextKind} {s : String} (fits : TextFits a kind s.toList) (shown : kind.isShown = true)
    (stands : Stands b a g) (named : g.names = a.stack) (pending : g.pending = none)
    (opens : Opens rest) :
    Grows (.content, b, renderText kind parent s.toList ++ rest) a g [.text kind s] rest := by
  obtain ⟨rfl, there, noNull, takes, collapsed⟩ := (textFits_iff shown).1 fits
  refine ⟨_, _, ?_, stands.addText there takes, ?_, fun h => ?_⟩
  · rw [renderText_shown shown, if_neg outside]
    refine .one (step_shown b there noNull opens) ?_
    have := List.length_pos_iff.2 (mt escapeText_eq_nil there)
    simp only [List.length_append]
    omega
  · rw [Growing.settle_add_text pending named collapsed, Growing.settle_eq_self pending]
    rfl
  · simp [isShownText, shown] at h

theorem grows_comment (parent : String) (stage : Stage) (rest : List Char) {s : String}
    (fits : TextFits a .comment s.toList) (stands : Stands b a g) (named : g.names = a.stack) :
    ∃ b', Reads (stage, b, renderText .comment parent s.toList ++ rest)
        (step.stay stage, b', rest) ∧
      Stands b' a (g.settle.append (.text .comment s)) := by
  obtain ⟨-, text, collapsed⟩ := fits
  have written : renderText .comment parent s.toList ++ rest =
      '<' :: '!' :: '-' :: '-' :: (s.toList ++ '-' :: '-' :: '>' :: rest) := by
    have marks : renderText .comment parent s.toList =
        ['<', '!', '-', '-'] ++ s.toList ++ ['-', '-', '>'] := rfl
    rw [marks]
    simp
  refine ⟨_, ?_, Growing.add_comment named collapsed ▸ stands.emit (.comment s.toList)⟩
  rw [written]
  refine .one ?_ ?_
  · rw [step_comment, readComment_append text]
  · simp only [List.length_cons, List.length_append]
    omega

/-- An element that is written as one tag. -/
theorem grows_void {parent name : String} {attributes : List (String × Value)}
    (fits : ElementFits a name attributes [])
    (settled : keptAttributes name (writtenAttributes name attributes) = attributes)
    (void : isWrittenVoid name = true) (stands : Stands b a g) :
    Grows (stage, b, renderNode parent (.element name attributes []) ++ rest) a g
      [.element name attributes []] rest := by
  have markup : renderNode parent (.element name attributes []) ++ rest =
      '<' :: (name.toList ++ (writtenAttributes name attributes).flatMap renderAttribute ++
        ('/' :: '>' :: rest)) := by
    simp [renderNode, renderOpening, void]
  have shut : (g.add (.opening name (writtenAttributes name attributes))).add (.closing name) =
      g.settle.append (.element name attributes []) :=
    Growing.add_closing_children settled rfl
  have closed := (stands.push name (writtenAttributes name attributes)).pop rfl
  rw [shut] at closed
  refine ⟨_, _, ?_, closed, ?_, fun _ _ => ?_⟩
  · rw [markup]
    refine .one ?_ ?_
    · rw [step_startTag stage b fits.named fits.readable (.inr ⟨rfl, rfl⟩),
        stands.start fits.admitted]
      simp
    · simp only [List.length_cons, List.length_append]
      omega
  · rw [Growing.settle_eq_self (by simp)]
    rfl
  · simp

/-- Behind the start tag of an element that is written as two, its content is read. -/
theorem step_opening (stage : Stage) {name : String} {attributes : List (String × Value)}
    {children : List Node} (fits : ElementFits a name attributes children)
    (notVoid : isVoid name = false) (stands : Stands b a g) (rest : List Char) :
    step stage b ('<' :: (name.toList ++
        (writtenAttributes name attributes).flatMap renderAttribute ++ ('>' :: rest))) =
      if reading name = .markup then
        (.content, b.push name (writtenAttributes name attributes), rest)
      else (.content, readRaw (b.push name (writtenAttributes name attributes)) name rest) := by
  rw [step_startTag stage b fits.named fits.readable (.inl ⟨rfl, rfl⟩), stands.start fits.admitted]
  simp only [notVoid]
  split_ifs <;> simp_all [Builder.push]

/-- An element, if what is read behind its start tag goes on to its end tag. -/
theorem grows_element {parent name : String} {attributes : List (String × Value)}
    {children : List Node} (fits : ElementFits a name attributes children)
    (settled : keptAttributes name (writtenAttributes name attributes) = attributes)
    (content : ∀ (b : Builder) (g : Growing), Stands b (a.enter name) g →
      g.names = (a.enter name).stack → g.pending = none →
      Grows (if reading name = .markup then
          (.content, b, renderNodes name children ++ (endTag name.toList ++ rest))
        else (.content, readRaw b name (renderNodes name children ++ (endTag name.toList ++ rest))))
        (a.enter name) g children (endTag name.toList ++ rest))
    (stands : Stands b a g) (named : g.names = a.stack) :
    Grows (stage, b, renderNode parent (.element name attributes children) ++ rest) a g
      [.element name attributes children] rest := by
  by_cases short : (children.isEmpty && isWrittenVoid name) = true
  · obtain ⟨none, void⟩ := Bool.and_eq_true_iff.1 short
    obtain rfl := List.isEmpty_iff.1 none
    exact grows_void fits settled void stands
  have notVoid : isVoid name = false := by
    rw [Bool.eq_false_iff]
    intro void
    rw [fits.void void, isWrittenVoid_of_isVoid void] at short
    exact short rfl
  have markup : renderNode parent (.element name attributes children) ++ rest =
      '<' :: (name.toList ++ (writtenAttributes name attributes).flatMap renderAttribute ++
        ('>' :: (renderNodes name children ++ (endTag name.toList ++ rest)))) := by
    rw [renderNode, if_neg short]
    simp [renderOpening, endTag]
  obtain ⟨b', g', reads, inner, grown, -⟩ := content _ _
    (stands.push name (writtenAttributes name attributes))
    (by rw [Growing.names_add_opening, named]; rfl) (Growing.pending_add_opening _ _)
  have closed := inner.finish (by rw [Around.pastAll_stack]; rfl)
  rw [Growing.add_closing_children settled grown] at closed
  refine ⟨_, _, ?_, closed, ?_, fun _ _ => ?_⟩
  · have last := step_closingTag .content b' fits.named rest
    rw [markup]
    refine .step (step_opening stage fits notVoid stands _) ?_ (reads.trans (.one last ?_))
    · have := length_readRaw_le (b.push name (writtenAttributes name attributes)) name
        (renderNodes name children ++ (endTag name.toList ++ rest))
      split_ifs <;> simp only [List.length_cons, List.length_append] at this ⊢ <;> omega
    · simp only [endTag, List.length_cons, List.length_append]
      omega
  · rw [Growing.settle_eq_self (by simp)]
    rfl
  · simp

theorem textReadsBack_nil {name : String} (h : reading name ≠ .verbatim) :
    textReadsBack name [] = true := by
  have script : scriptLength .plain "</script>".toList = 0 := by decide
  unfold textReadsBack
  cases kind : reading name with
  | markup => rfl
  | replaceable => rfl
  | raw => simp [escapeText]
  | script => exact decide_eq_true script
  | verbatim => exact absurd kind h

/-- The content of an element without markup. -/
theorem grows_raw {name : String} {attributes : List (String × Value)} {children : List Node}
    (raw : reading name ≠ .markup) (only : RawFits name children)
    (fits : Fits (a.enter name) children)
    (back : PrintsBack (.element name attributes children)) (stands : Stands b (a.enter name) g)
    (named : g.names = (a.enter name).stack) (pending : g.pending = none) :
    Grows (.content, readRaw b name (renderNodes name children ++ (endTag name.toList ++ rest)))
      (a.enter name) g children (endTag name.toList ++ rest) := by
  obtain ⟨notVerbatim, texts⟩ := back
  match children, only with
  | [], _ =>
    have read := readRaw_render raw (textReadsBack_nil notVerbatim) (by simp) (fun _ => trivial) b
      rest
    rw [show escapeText [] = [] from rfl, ite_self] at read
    refine ⟨b, g, ?_, stands, rfl, by simp⟩
    rw [renderNodes, read]
    exact .refl _
  | [.text kind s], noEnd =>
    have closed : (a.enter name).isOpen = false := by
      simp [Around.isOpen, Around.enter, holdsMarkup, raw]
    have shown := isShown_of_textFits fits.1 closed
    obtain ⟨rfl, there, noNull, takes, collapsed⟩ := (textFits_iff shown).1 fits.1
    have back := textReadsBack_of_child shown (List.all_eq_true.1 texts _ (.head _))
    have read := readRaw_render raw back noNull noEnd b rest
    refine ⟨_, _, ?_, stands.emitText there, ?_, fun h => ?_⟩
    · rw [renderNodes, renderNodes, renderNode, List.append_nil, renderText_shown shown, read]
      exact .refl _
    · rw [Growing.settle_add_text pending named collapsed, Growing.settle_eq_self pending]
      rfl
    · simp [isShownText, shown] at h

/-- Nodes that do not begin with text that shows end the text in front of them. -/
theorem opens_renderNodes (parent : String) {nodes : List Node}
    (h : nodes.head?.any isShownText = false) (opens : Opens rest) :
    Opens (renderNodes parent nodes ++ rest) := by
  cases nodes with
  | nil => exact opens
  | cons node nodes =>
    refine .inr ?_
    cases node with
    | text kind s => cases kind <;> first | exact ⟨_, rfl⟩ | cases h
    | element name attributes children =>
      rw [renderNodes, renderNode]
      split <;> exact ⟨_, rfl⟩

mutual

/-- The markup of a node is read to its end. -/
theorem grows_node {parent : String} (outside : ¬ (parent = "script" ∨ parent = "style")) :
    ∀ (node : Node) {stage : Stage} {b : Builder} {a : Around} {g : Growing} {rest : List Char},
      node.Plain a → Stands b a g → g.names = a.stack →
      (stage = .content ∨ isElement node = true) →
      (isShownText node = true → g.pending = none ∧ Opens rest) →
      Grows (stage, b, renderNode parent node ++ rest) a g [node] rest
  | .text kind s, stage, b, a, g, rest, plain, stands, named, inside, apart => by
    obtain rfl : stage = .content := inside.resolve_right (by simp [isElement])
    by_cases shown : kind.isShown = true
    · obtain ⟨pending, opens⟩ := apart shown
      exact grows_text outside plain.fits shown stands named pending opens
    · obtain ⟨fits, -, -, noType⟩ := plain
      cases kind with
      | comment =>
        obtain ⟨b', reads, stands⟩ := grows_comment parent .content rest fits stands named
        exact ⟨b', _, reads, stands, Growing.settle_eq_self (by simp), fun _ _ => by simp⟩
      | doctype => cases noType
      | cdata | instruction => exact fits.elim
      | _ => exact absurd rfl shown
  | .element name attributes children, stage, b, a, g, rest, plain, stands, named, _, _ => by
    refine grows_element plain.fits.1 plain.settled.1.1 (fun b g stands named pending => ?_) stands
      named
    split
    · next markup =>
      have outside : ¬ (name = "script" ∨ name = "style") := by
        rintro (rfl | rfl) <;> exact absurd markup (by decide)
      have noType : children.all (!isDoctype ·) = true := by
        have same : childReadsBack name = fun node => !isDoctype node :=
          funext (childReadsBack_markup markup)
        rw [← same]
        exact plain.printsBack.1.2
      exact grows_nodes outside children
        ⟨plain.fits.2, plain.printsBack.2, plain.settled.2, noType, plain.settled.1.2⟩ stands named
        (fun _ => pending) (.inr ⟨_, rfl⟩)
    · next raw =>
      exact grows_raw raw (plain.fits.1.raw raw) plain.fits.2 plain.printsBack.1 stands named
        pending

/-- The markup of nodes is read to its end. -/
theorem grows_nodes {parent : String} (outside : ¬ (parent = "script" ∨ parent = "style")) :
    ∀ (nodes : List Node) {b : Builder} {a : Around} {g : Growing} {rest : List Char},
      Plain a nodes → Stands b a g → g.names = a.stack →
      (nodes.head?.any isShownText = true → g.pending = none) → Opens rest →
      Grows (.content, b, renderNodes parent nodes ++ rest) a g nodes rest
  | [], b, a, g, rest, _, stands, _, _, _ => ⟨b, g, .refl _, stands, rfl, by simp⟩
  | node :: nodes, b, a, g, rest, plain, stands, named, first, opens => by
    have noType := Bool.and_eq_true_iff.1 (List.all_cons ▸ plain.noType)
    have opensBehind (shown : isShownText node = true) : Opens (renderNodes parent nodes ++ rest) :=
      opens_renderNodes parent (plain.apart.1 shown) opens
    obtain ⟨b₁, g₁, reads, stands₁, grown, settled⟩ :=
      grows_node outside node
        ⟨plain.fits.1, plain.printsBack.1, plain.settled.1, by simpa using noType.1⟩ stands named
        (.inl rfl) fun shown => ⟨first (by simpa using shown), opensBehind shown⟩
    have named₁ : g₁.names = (a.past node).stack := by
      rw [Growing.names_of_grown grown, named, Around.past_stack]
    -- A text still waits for more behind it, so the next node must not be one, as `apart` says.
    obtain ⟨b₂, g₂, reads', stands₂, grown', settled'⟩ := grows_nodes outside nodes
      ⟨plain.fits.2, plain.printsBack.2, plain.settled.2, noType.2, plain.apart.2⟩ stands₁ named₁
      (fun shown => settled (Bool.eq_false_iff.2 fun text => by
        simp [plain.apart.1 (by simpa using text)] at shown) (List.cons_ne_nil _ _)) opens
    rw [renderNodes, List.append_assoc]
    cases nodes with
    | nil => exact ⟨b₁, g₁, reads, stands₁, grown, settled⟩
    | cons next nodes =>
      refine ⟨b₂, g₂, reads.trans reads', stands₂, ?_, fun shown _ => settled' ?_ ?_⟩
      · rw [grown', grown]
        rfl
      · simpa using shown
      · exact List.cons_ne_nil _ _

end

end

/-! ## Documents -/

/-- Blanks in front of the first element are skipped. -/
theorem Reads.newline {stage stage' : Stage} {b b' : Builder} {s : List Char}
    (outside : stage ≠ .content) (h : Reads (stage, b, s) (stage', b', [])) :
    ∃ stage', Reads (stage, b, '\n' :: s) (stage', b', []) := by
  have same (t : List Char) : Html.step stage b ('\n' :: t) = Html.step stage b t := by
    have skips : skipSpace ('\n' :: t) = skipSpace t := rfl
    rw [Html.step, Html.step, if_neg outside, if_neg outside, skips]
  cases h with
  | refl =>
    refine ⟨.content, .one ?_ (by simp : [].length < _)⟩
    rw [same, Html.step, if_neg outside]
    rfl
  | step next shorter more =>
    exact ⟨_, .step ((same s).trans next) (Nat.lt_succ_of_lt shorter) more⟩

theorem grows_doctype {stage : Stage} {b : Builder} {a : Around} {g : Growing} {s : String}
    (outer : stage = .start ∨ stage = .beforeType) (back : typeReadsBack s = true)
    (fits : TextFits a .doctype s.toList) (stands : Stands b a g) (rest : List Char) :
    ∃ b', Reads (stage, b, renderText .doctype "" s.toList ++ rest) (.afterType, b', '\n' :: rest) ∧
      Stands b' a (g.settle.append (.text .doctype s)) := by
  obtain ⟨d, reads⟩ := Doctype.read_append fits.2
  have text : d.toText = s := by
    have := of_decide_eq_true back
    rwa [reads] at this
  have written : renderText .doctype "" s.toList ++ rest =
      '<' :: '!' :: 'D' :: 'O' :: 'C' :: 'T' :: 'Y' :: 'P' :: 'E' ::
        ' ' :: (s.toList ++ '>' :: '\n' :: rest) := by
    have marks : renderText .doctype "" s.toList =
        ['<', '!', 'D', 'O', 'C', 'T', 'Y', 'P', 'E', ' '] ++ s.toList ++ ['>', '\n'] := rfl
    rw [marks]
    simp
  have behind : Doctype.read (' ' :: (s.toList ++ '>' :: '\n' :: rest)) = (d, '\n' :: rest) :=
    reads _
  refine ⟨_, ?_, stands.emit (.doctype s)⟩
  rw [written]
  refine .one ?_ ?_
  · rw [step_doctype, behind, text, if_pos outer]
  · simp only [List.length_cons, List.length_append]
    omega

/-- The markup of a document is read to its end. -/
theorem grows_document {typed : Bool} {nodes : List Node} (prologue : isPrologue typed nodes = true)
    (printsBack : Everywhere PrintsBack nodes) (settled : Everywhere Settled nodes)
    (apart : Apart nodes) {stage : Stage} {b : Builder} {a : Around} {g : Growing}
    (fits : Fits a nodes) (outer : stage ≠ .content)
    (untyped : typed = false → stage = .start ∨ stage = .beforeType)
    (stands : Stands b a g) (named : g.names = a.stack) :
    ∃ stage' b' g', Reads (stage, b, render nodes) (stage', b', []) ∧
      Stands b' (a.pastAll nodes) g' ∧ g'.settle = g.settle.appendAll nodes := by
  have outside : ¬ ("" = "script" ∨ "" = "style") := by decide
  induction nodes generalizing typed stage b a g with
  | nil => exact ⟨stage, b, g, .refl _, stands, rfl⟩
  | cons node nodes ih =>
    cases node with
    | element name attributes children =>
      have noType : nodes.all (!isDoctype ·) = true := by
        rw [← List.not_any_eq_all_not]
        exact prologue
      obtain ⟨b₁, g₁, reads, stands₁, grown, settled₁⟩ :=
        grows_node outside (.element name attributes children)
          ⟨fits.1, printsBack.1, settled.1, rfl⟩ stands named (.inr rfl) fun shown => by cases shown
      have named₁ : g₁.names = (a.past (.element name attributes children)).stack := by
        rw [Growing.names_of_grown grown, named, Around.past_stack]
      obtain ⟨b₂, g₂, reads', stands₂, grown', -⟩ :=
        grows_nodes outside nodes ⟨fits.2, printsBack.2, settled.2, noType, apart.2⟩ stands₁ named₁
          (fun _ => settled₁ rfl (List.cons_ne_nil _ _)) (.inl rfl)
      rw [List.append_nil] at reads'
      refine ⟨.content, b₂, g₂, reads.trans reads', stands₂, ?_⟩
      rw [grown', grown]
      rfl
    | text kind s =>
      cases kind with
      | comment =>
        obtain ⟨b₁, reads, stands₁⟩ := grows_comment "" stage (render nodes) fits.1 stands named
        obtain ⟨stage', b', g', reads', stands', grown⟩ :=
          ih prologue printsBack.2 settled.2 apart.2 fits.2 (stay_ne_content outer)
            (fun first => .inr (stay_of_untyped (untyped first))) stands₁ (by simp [named])
        refine ⟨stage', b', g', reads.trans reads', stands', ?_⟩
        rw [grown, Growing.settle_eq_self (by simp)]
        rfl
      | doctype =>
        simp only [isPrologue, Bool.and_eq_true, Bool.not_eq_true'] at prologue
        obtain ⟨⟨first, back⟩, prologue⟩ := prologue
        obtain ⟨b₁, reads, stands₁⟩ :=
          grows_doctype (untyped first) back fits.1 stands (render nodes)
        obtain ⟨stage', b', g', reads', stands', grown⟩ :=
          ih prologue printsBack.2 settled.2 apart.2 fits.2 (by decide : Stage.afterType ≠ .content)
            (fun typed => by cases typed) stands₁ (by simp [named])
        obtain ⟨stage', reads'⟩ := reads'.newline (by decide)
        refine ⟨stage', b', g', reads.trans reads', stands', ?_⟩
        rw [grown, Growing.settle_eq_self (by simp)]
        rfl
      | _ => cases prologue

theorem unifyLineEnds_eq_self {s : List Char} (h : '\r' ∉ s) : unifyLineEnds s = s := by
  fun_induction unifyLineEnds s with
  | case1 => simp at h
  | case2 => simp at h
  | case3 c s _ _ ih => rw [ih fun m => h (List.mem_cons_of_mem _ m)]
  | case4 => rfl

/-- A tree as the reader builds it, with texts that stand apart and settled attributes, is what its
markup describes if nothing in it reads otherwise. -/
theorem parse_render {nodes : List Node} (fits : Fits .root nodes)
    (noReturn : '\r' ∉ render nodes) (prologue : isPrologue false nodes = true)
    (printsBack : Everywhere PrintsBack nodes) (settled : Everywhere Settled nodes)
    (apart : Apart nodes) : parse (render nodes) = nodes := by
  obtain ⟨stage, b, g, reads, stands, grown⟩ :=
    grows_document prologue printsBack settled apart fits (by decide : Stage.start ≠ .content)
      (fun _ => .inl rfl) (⟨rfl, rfl, rfl⟩ : Stands .empty .root .empty) rfl
  have built : readAll ((render nodes).length + 1) .start .empty (render nodes) = b :=
    readAll_of_reads reads rfl (Nat.lt_succ_self _)
  have outside : b.stack = [] := by
    rw [stands.stack_eq, Around.pastAll_stack]
    rfl
  have read : events (render nodes) = b.emitted.reverse := by
    simp only [events, unifyLineEnds_eq_self noReturn, built, outside, List.length_nil,
      Builder.popMany]
  have tree : g.settle = ⟨[], nodes.reverse, none⟩ := by
    rw [grown, Growing.settle_eq_self rfl, Growing.appendAll_empty]
  rw [parse, read, Node.ofEvents]
  change (Growing.closeMany b.growing.settle.frames.length b.growing.settle).roots.reverse = nodes
  rw [stands.growing, tree]
  exact List.reverse_reverse nodes

end EpubLibrary.Html
