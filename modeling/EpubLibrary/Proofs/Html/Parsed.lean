import EpubLibrary.Proofs.Html.Sound
import EpubLibrary.Proofs.Html.Steps

namespace EpubLibrary.Html

/-! ## The stack -/

namespace Builder

theorem stack_pop (b : Builder) : b.pop.stack = b.stack.tail := by
  unfold pop
  split <;> simp [*]

theorem stack_popMany (n : Nat) (b : Builder) : (popMany n b).stack = b.stack.drop n := by
  induction n generalizing b with
  | zero => rfl
  | succ n ih => rw [popMany, ih, stack_pop, ← List.drop_one, List.drop_drop, Nat.add_comm]

theorem stack_autoClose (b : Builder) (name : String) :
    (b.autoClose name).stack = b.stack.dropWhile (closes name ·) := by
  rw [autoClose, stack_popMany]
  have whole : b.stack.takeWhile (closes name ·) ++ b.stack.dropWhile (closes name ·) = b.stack :=
    List.takeWhile_append_dropWhile
  exact (congrArg (List.drop _) whole.symm).trans List.drop_left

/-- After what its start ends, an element stands in none that it would end. -/
theorem closes_autoClose (b : Builder) (name : String) (outer : String)
    (top : (b.autoClose name).stack.head? = some outer) : closes name outer = false := by
  have := List.head?_dropWhile_not (closes name ·) b.stack
  rw [stack_autoClose] at top
  simpa [top] using this

/-- What is implied by a tag inside some element. -/
theorem imply_cases {b : Builder} (there : b.stack ≠ []) (name : String) :
    (b.imply name = b ∧ b.around.isComplete name = true) ∨
      (b.imply name = b.push "head" [] ∧ isHeadContent name = true ∧ b.stack.length ≤ 1) ∨
      (b.imply name = b.push "body" [] ∧ b.bodySeen = false ∧
        b.stack.any (fun n => n = "body" || n = "head") = false) := by
  have occupied : b.stack.isEmpty = false := by simpa using there
  simp only [imply, Around.isComplete, around, occupied]
  split_ifs <;> simp_all

/-- Outside every element, `html` is implied first. -/
theorem imply_of_empty {b : Builder} (none : b.stack = []) {name : String} (h : name ≠ "html") :
    b.imply name = (b.push "html" []).imply name := by
  simp [imply, h, none, push]

end Builder

theorem closes_html (name : String) : closes name "html" = false := rfl

theorem closes_body (name : String) : closes name "body" = false := rfl

theorem closes_head {name : String} (h : isHeadContent name = true) :
    closes name "head" = false := by
  simp only [isHeadContent, List.contains_eq_mem, List.mem_cons, List.not_mem_nil, or_false,
    decide_eq_true_eq] at h
  rcases h with rfl | rfl | rfl | rfl | rfl | rfl <;> decide

theorem holdsMarkup_of_isHeadContent {name : String} (h : isHeadContent name = true) :
    holdsMarkup name = false := by
  simp only [isHeadContent, List.contains_eq_mem, List.mem_cons, List.not_mem_nil, or_false,
    decide_eq_true_eq] at h
  rcases h with rfl | rfl | rfl | rfl | rfl | rfl <;> decide

theorem isVoid_eq_false_of_reading {name : String} (h : reading name ≠ .markup) :
    isVoid name = false := by
  have notVoid : ∀ n ∈ rawNames, isVoid (String.ofList n) = false := by decide
  simpa using notVoid _ (mem_rawNames h)

/-! ## Builders in step with their trees -/

namespace Builder

/-- The builder stands where its tree grows, and the tree is sound. -/
structure InStep (b : Builder) : Prop where
  around : b.growing.around = b.around
  sound : b.growing.Sound

/-- Besides, all open elements hold markup, so tags, texts and comments may come. -/
structure Ready (b : Builder) : Prop where
  inStep : b.InStep
  markup : b.stack.all holdsMarkup = true

namespace InStep

variable {b : Builder}

theorem names (h : b.InStep) : b.growing.names = b.stack := by
  rw [← Growing.stack_around, h.around]
  rfl

theorem pop (h : b.InStep) : b.pop.InStep := by
  cases hs : b.stack with
  | nil =>
    have same : b.pop = b := by rw [Builder.pop, hs]
    rwa [same]
  | cons name outer =>
    refine ⟨?_, growing_pop hs ▸ h.sound.add_closing name⟩
    rw [growing_pop hs, around_pop hs, Growing.around_add_closing (h.names.trans hs), h.around]
    rfl

theorem popMany (h : b.InStep) (n : Nat) : (popMany n b).InStep := by
  induction n generalizing b with
  | zero => exact h
  | succ n ih => exact ih h.pop

theorem push (h : b.InStep) {name : String} {raw : Attributes} (named : TagName name)
    (readable : raw.Readable) (admits : b.around.Admits name) : (b.push name raw).InStep where
  around := by rw [growing_push, Growing.around_add_opening, h.around, around_push]
  sound := growing_push b name raw ▸ h.sound.add_opening named readable (h.around.symm ▸ admits)

/-- Where the innermost element was admitted. -/
theorem admitted (h : b.InStep) {name : String} {outer : List String}
    (hs : b.stack = name :: outer) :
    ∃ a : Around, a.stack = outer ∧ a.Admits name ∧ (a.bodySeen = true → b.bodySeen = true) := by
  have named := h.names
  have same := h.around
  have fits := h.sound.fits
  unfold Growing.names at named
  unfold Growing.around at same
  cases hf : b.growing.frames with
  | nil => simp [hf, hs] at named
  | cons f frames =>
    rw [hf] at fits named same
    obtain ⟨rfl, rfl⟩ := List.cons.inj (named.trans hs)
    refine ⟨Growing.place b.growing.roots frames, Growing.stack_place _ _, fits.1.admitted,
      fun seen => ?_⟩
    have : (Growing.place b.growing.roots (f :: frames)).bodySeen = true :=
      Around.bodySeen_pastAll _ (by simp [Around.enter, seen])
    rwa [same] at this

end InStep

namespace Ready

variable {b : Builder}

theorem isOpen (h : b.Ready) : b.around.isOpen = true := by
  have markup := h.markup
  simp only [Around.isOpen, Builder.around]
  cases hs : b.stack with
  | nil => rfl
  | cons name outer =>
    rw [hs, List.all_cons, Bool.and_eq_true] at markup
    simpa using markup.1

theorem popMany (h : b.Ready) (n : Nat) : (popMany n b).Ready where
  inStep := h.inStep.popMany n
  markup := List.all_eq_true.2 fun name hn =>
    List.all_eq_true.1 h.markup name (List.mem_of_mem_drop (stack_popMany n b ▸ hn))

theorem autoClose (h : b.Ready) (name : String) : (b.autoClose name).Ready := h.popMany _

theorem push (h : b.Ready) {name : String} {raw : Attributes} (named : TagName name)
    (readable : raw.Readable) (admits : b.around.Admits name) (holds : holdsMarkup name = true) :
    (b.push name raw).Ready where
  inStep := h.inStep.push named readable admits
  markup := by simpa [Builder.push, holds] using h.markup

theorem pushHtml (h : b.Ready) (none : b.stack = []) : (b.push "html" []).Ready := by
  refine h.push (.of_all (by decide) (by decide)) .nil ⟨h.isOpen, ?_, rfl, ?_⟩ (by decide)
  · simp [Builder.around, none]
  · simp [Around.excludes, Builder.around, none]

theorem pushHead (h : b.Ready) {name : String} (lone : b.stack = [name]) :
    (b.push "head" []).Ready := by
  obtain ⟨a, none, admits, -⟩ := h.inStep.admitted lone
  have isHtml : name = "html" := by
    have complete := admits.isComplete
    simp only [Around.isComplete, none, List.isEmpty_nil, if_true] at complete
    simpa using complete
  subst isHtml
  refine h.push (.of_all (by decide) (by decide)) .nil ⟨h.isOpen, ?_, ?_, ?_⟩ (by decide)
  · simp [Builder.around, lone, closes_html]
  · simp [Around.isComplete, Builder.around, lone]
  · simp [Around.excludes, Builder.around, lone]

theorem pushBody (h : b.Ready) (there : b.stack ≠ []) (unseen : b.bodySeen = false)
    (outside : b.stack.any (fun n => n = "body" || n = "head") = false) :
    (b.push "body" []).Ready := by
  obtain ⟨name, outer, hs⟩ := List.exists_cons_of_ne_nil there
  obtain ⟨a, rfl, admits, seen⟩ := h.inStep.admitted hs
  have holds : holdsMarkup name = true := List.all_eq_true.1 h.markup name (by simp [hs])
  -- What is open outside head and body, and holds markup, is `html` or a frameset: anything else was
  -- admitted only once a body had been seen.
  have lasting : closes "body" name = false := by
    have complete := admits.isComplete
    rw [hs, List.any_cons, Bool.or_eq_false_iff] at outside
    unfold Around.isComplete at complete
    split_ifs at complete with isHtml empty isOuter isInner isFrame
    · exact isHtml ▸ closes_html "body"
    · exact absurd isOuter (by simpa using outside.1)
    · rw [holdsMarkup_of_isHeadContent isInner.2] at holds
      cases holds
    · rcases isFrame with rfl | rfl | rfl <;> decide
    · rw [outside.2, Bool.or_false] at complete
      rw [seen complete] at unseen
      cases unseen
  refine h.push (.of_all (by decide) (by decide)) .nil ⟨h.isOpen, ?_, ?_, ?_⟩ (by decide)
  · simpa [Builder.around, hs] using lasting
  · simp [Around.isComplete, Builder.around, hs]
  · have absent : "body" ∉ b.stack := fun inside => by
      rw [List.any_eq_false] at outside
      exact absurd (outside _ inside) (by simp)
    simp [Around.excludes, Builder.around, absent]

/-- What a tag implies leaves the builder ready, with all that must be around the element. -/
theorem imply (h : b.Ready) {name : String}
    (lasting : ∀ outer, b.stack.head? = some outer → closes name outer = false) :
    (b.imply name).Ready ∧ (b.imply name).around.isComplete name = true ∧
      ∀ outer, (b.imply name).stack.head? = some outer → closes name outer = false := by
  by_cases isHtml : name = "html"
  · have same : b.imply name = b := by rw [Builder.imply, if_pos isHtml]
    rw [same]
    exact ⟨h, by rw [Around.isComplete, if_pos isHtml], lasting⟩
  -- Outside every element `html` comes first; from there on, at most one more element is implied.
  have inside {b : Builder} (h : b.Ready) (there : b.stack ≠ [])
      (lasting : ∀ outer, b.stack.head? = some outer → closes name outer = false) :
      (b.imply name).Ready ∧ (b.imply name).around.isComplete name = true ∧
        ∀ outer, (b.imply name).stack.head? = some outer → closes name outer = false := by
    obtain ⟨top, outer, hs⟩ := List.exists_cons_of_ne_nil there
    rcases imply_cases there name with ⟨e, complete⟩ | ⟨e, content, few⟩ | ⟨e, unseen, outside⟩ <;>
      rw [e]
    · exact ⟨h, complete, lasting⟩
    · obtain rfl : outer = [] := by
        rw [hs, List.length_cons] at few
        exact List.length_eq_zero_iff.1 (by omega)
      refine ⟨h.pushHead hs, ?_, fun n hn => ?_⟩
      · simp [Around.isComplete, Builder.around, Builder.push, hs]
      · cases hn
        exact closes_head content
    · refine ⟨h.pushBody there unseen outside, ?_, fun n hn => ?_⟩
      · simp [Around.isComplete, Builder.around, Builder.push, hs]
      · cases hn
        exact closes_body name
  by_cases none : b.stack = []
  · rw [imply_of_empty none isHtml]
    refine inside (h.pushHtml none) (List.cons_ne_nil _ _) fun outer top => ?_
    cases top
    exact closes_html name
  · exact inside h none lasting

/-- What a start tag comes to: the builder is ready again, or an element without markup is open, or
the text ends inside the tag. -/
theorem start (h : b.Ready) {tag : Tag} (named : TagName tag.name)
    (readable : tag.attributes.Readable) :
    (b.start tag).Ready ∨
      (reading tag.name ≠ .markup ∧ tag.ending = .closed ∧ ∃ b' : Builder, b'.Ready ∧
        b'.around.Admits tag.name ∧ b.start tag = b'.push tag.name tag.attributes) ∨
      (tag.ending = .unfinished ∧ (b.start tag).growing.Sound) := by
  obtain ⟨implied, complete, lasting⟩ := (h.autoClose tag.name).imply
    (fun outer top => b.closes_autoClose tag.name outer top)
  rw [Builder.start]
  dsimp only
  generalize (b.autoClose tag.name).imply tag.name = b' at implied complete lasting ⊢
  split
  · exact .inl ⟨⟨implied.inStep.around, implied.inStep.sound⟩, implied.markup⟩
  · next stays =>
    have admits : b'.around.Admits tag.name :=
      ⟨implied.isOpen, lasting, complete, Bool.eq_false_iff.2 stays⟩
    have opened := implied.inStep.push named readable admits
    have closed : (b'.push tag.name tag.attributes).pop.Ready :=
      ⟨opened.pop, by rw [stack_pop]; exact implied.markup⟩
    split
    · exact .inl closed
    · next ending =>
      split
      · exact .inl closed
      · next notVoid =>
        by_cases markup : reading tag.name = .markup
        · have holds : holdsMarkup tag.name = true := by simp [holdsMarkup, notVoid, markup]
          exact .inl (implied.push named readable admits holds)
        · exact .inr (.inl ⟨markup, ending, b', implied, admits, rfl⟩)
    · next ending => exact .inr (.inr ⟨ending, opened.sound⟩)

theorem finish (h : b.Ready) (name : String) : (b.finish name).Ready := by
  unfold Builder.finish
  split
  · exact ⟨⟨h.inStep.around, h.inStep.sound⟩, h.markup⟩
  · split
    · exact h
    · exact h.popMany _

theorem emit (h : b.Ready) {e : Event} (sound : (b.growing.add e).Sound)
    (around : (b.growing.add e).around = b.growing.around) : (b.emit e).Ready where
  inStep := ⟨by rw [growing_emit, around, h.inStep.around, around_emit],
    growing_emit b e ▸ sound⟩
  markup := h.markup

theorem isOpen_growing (h : b.Ready) : b.growing.around.isOpen = true := by
  rw [h.inStep.around, h.isOpen]

theorem emitComment (h : b.Ready) {s : List Char} (text : CommentText s) :
    (b.emit (.comment s)).Ready :=
  h.emit (h.inStep.sound.add_comment h.isOpen_growing text) (Growing.around_add_comment _ _)

theorem emitDoctype (h : b.Ready) {s : String} (text : '>' ∉ s.toList) :
    (b.emit (.doctype s)).Ready :=
  h.emit (h.inStep.sound.add_doctype h.isOpen_growing text) (Growing.around_add_doctype _ _)

theorem emitText (h : b.Ready) {s : List Char} (there : s ≠ []) (noNull : '\x00' ∉ s)
    (takes : b.around.Takes s) : (b.emit (.text s)).Ready := by
  have isOpen := h.isOpen_growing
  refine h.emit (h.inStep.sound.add_text ⟨there, noNull, h.inStep.around ▸ takes, ?_⟩ (.inl isOpen))
    rfl
  exact fun f top raw => absurd (Growing.holdsMarkup_of_isOpen isOpen top).2 raw

/-- Text inside an element that is neither `html` nor `head` is taken there. -/
theorem takes_inside (h : b.Ready) {name : String} (top : b.stack.head? = some name)
    (inner : ¬ (name = "html" ∨ name = "head")) (s : List Char) : b.around.Takes s := by
  obtain ⟨notHtml, notHead⟩ := not_or.1 inner
  have holds : holdsMarkup name = true :=
    List.all_eq_true.1 h.markup name (List.mem_of_mem_head? top)
  rw [holdsMarkup, Bool.and_eq_true, Bool.not_eq_true'] at holds
  simp [Around.Takes, Builder.around, top, notHtml, notHead, holds.1]

theorem takes_blank (h : b.Ready) {s : List Char} (blank : s.all isSpace = true) :
    b.around.Takes s := by
  cases top : b.stack.head? with
  | none => simpa [Around.Takes, Builder.around, top] using blank
  | some name =>
    by_cases outer : name = "html" ∨ name = "head"
    · rcases outer with rfl | rfl <;> simp [Around.Takes, Builder.around, top, blank]
    · exact h.takes_inside top outer s

/-- Where a paragraph could start, text is taken. -/
theorem takes_complete (h : b.Ready) (complete : b.around.isComplete "p" = true)
    (outside : b.stack.head? ≠ some "head") (s : List Char) : b.around.Takes s := by
  cases top : b.stack.head? with
  | none =>
    have none : b.stack = [] := List.head?_eq_none_iff.1 top
    simp [Around.isComplete, Builder.around, none] at complete
  | some name =>
    by_cases isHtml : name = "html"
    · subst isHtml
      simp only [Around.Takes, Builder.around, top, if_true]
      exact .inr complete
    · refine h.takes_inside top (not_or.2 ⟨isHtml, ?_⟩) s
      rintro rfl
      exact outside top

/-- A paragraph implies no `head`. -/
theorem imply_outside_head (outside : b.stack.head? ≠ some "head") :
    (b.imply "p").stack.head? ≠ some "head" := by
  have inside {b : Builder} (there : b.stack ≠ []) (outside : b.stack.head? ≠ some "head") :
      (b.imply "p").stack.head? ≠ some "head" := by
    rcases imply_cases there "p" with ⟨e, -⟩ | ⟨-, content, -⟩ | ⟨e, -⟩
    · rwa [e]
    · exact absurd content (by decide)
    · rw [e]
      simp [Builder.push]
  by_cases none : b.stack = []
  · rw [imply_of_empty none (by decide)]
    exact inside (List.cons_ne_nil _ _) (by simp [Builder.push])
  · exact inside none outside

theorem addText_outer (h : b.Ready) {s : List Char} (noNull : '\x00' ∉ s)
    (outer : ∀ name, b.stack.head? = some name → name = "html" ∨ name = "head") :
    (Builder.addText.outer b s).Ready := by
  have blanks : (if (s.takeWhile isSpace).isEmpty then b
      else b.emit (.text (s.takeWhile isSpace))).Ready := by
    split
    · exact h
    · next there =>
      exact h.emitText (by simpa using there)
        (fun null => noNull ((List.takeWhile_sublist _).subset null))
        (h.takes_blank List.all_takeWhile)
  have same : (if (s.takeWhile isSpace).isEmpty then b
      else b.emit (.text (s.takeWhile isSpace))).stack = b.stack := by
    split <;> rfl
  unfold Builder.addText.outer
  dsimp only
  generalize (if (s.takeWhile isSpace).isEmpty then b
    else b.emit (.text (s.takeWhile isSpace))) = b₁ at blanks same ⊢
  split
  · exact blanks
  · next there =>
    obtain ⟨ready, lasting, outside⟩ : (if b₁.stack.head? = some "head" then b₁.autoClose "p"
        else b₁).Ready ∧
        (∀ n, (if b₁.stack.head? = some "head" then b₁.autoClose "p" else b₁).stack.head? = some n →
          closes "p" n = false) ∧
        (if b₁.stack.head? = some "head" then b₁.autoClose "p" else b₁).stack.head? ≠
          some "head" := by
      split
      · refine ⟨blanks.autoClose "p", b₁.closes_autoClose "p", fun top => ?_⟩
        exact absurd (b₁.closes_autoClose "p" _ top) (by decide)
      · next outside =>
        refine ⟨blanks, fun n top => ?_, outside⟩
        rcases outer n (same ▸ top) with rfl | rfl
        · exact closes_html "p"
        · exact absurd top outside
    obtain ⟨implied, complete, -⟩ := ready.imply lasting
    exact implied.emitText (by simpa using there)
      (fun null => noNull ((List.dropWhile_sublist _).subset null))
      (implied.takes_complete complete (imply_outside_head outside) _)

/-- Text keeps a builder ready, wherever it is put. -/
theorem addText (h : b.Ready) {s : List Char} (noNull : '\x00' ∉ s) : (b.addText s).Ready := by
  unfold Builder.addText
  split
  · exact h
  · next there =>
    split
    · next name top =>
      split
      · next outer =>
        refine h.addText_outer noNull fun n hn => ?_
        obtain rfl := Option.some.inj (top.symm.trans hn)
        exact outer
      · next inner =>
        exact h.emitText (by simpa using there) noNull (h.takes_inside top inner s)
    · next top =>
      exact h.addText_outer noNull fun n hn => by simp [top] at hn

/-- An element without markup takes its text. -/
theorem emitText_push (h : b.Ready) {name : String} {raw : Attributes} (named : TagName name)
    (readable : raw.Readable) (admits : b.around.Admits name) (rawName : reading name ≠ .markup)
    {s : List Char} (noNull : '\x00' ∉ s) (noEnd : reading name = .raw → NoEndTag name.toList s) :
    ((b.push name raw).emitText s).InStep := by
  have opened := h.inStep.push named readable admits
  unfold Builder.emitText
  split
  · exact opened
  · next there =>
    have takes : (b.push name raw).growing.around.Takes s := by
      have inner : name ≠ "html" ∧ name ≠ "head" := by
        constructor <;> (rintro rfl; exact rawName (by decide))
      rw [opened.around]
      simp [Around.Takes, Around.enter, inner, isVoid_eq_false_of_reading rawName]
    have accepts : (b.push name raw).growing.Accepts s := by
      refine ⟨by simpa using there, noNull, takes, fun f top _ => ?_⟩
      rw [growing_push] at top
      cases top
      exact ⟨rfl, noEnd⟩
    refine ⟨?_, ?_⟩
    · rw [growing_emit, Growing.around_add_text, opened.around, around_emit]
    · rw [growing_emit]
      refine opened.sound.add_text accepts (.inr ?_)
      rw [growing_push, Growing.pending_add_opening]

end Ready

end Builder

/-- Behind the text of an element without markup stands its end tag, or nothing. -/
theorem readRaw_inStep {b : Builder} (h : b.Ready) {name : String} {raw : Attributes}
    (named : TagName name) (readable : raw.Readable) (admits : b.around.Admits name)
    (rawName : reading name ≠ .markup) (s : List Char) :
    (readRaw (b.push name raw) name s).1.InStep ∧
      (readRaw (b.push name raw) name s).1.stack = name :: b.stack ∧
      ((readRaw (b.push name raw) name s).2 = [] ∨
        startsWithTag ['<', '/'] name.toList (readRaw (b.push name raw) name s).2 = true) := by
  have text {t : List Char} (noNull : '\x00' ∉ t)
      (noEnd : reading name = .raw → NoEndTag name.toList t) :
      ((b.push name raw).emitText t).InStep :=
    h.emitText_push named readable admits rawName noNull noEnd
  have stack (t : List Char) : ((b.push name raw).emitText t).stack = name :: b.stack := by
    unfold Builder.emitText
    split <;> rfl
  unfold readRaw
  cases kind : reading name with
  | markup => exact absurd kind rawName
  | replaceable =>
    exact ⟨text (null_not_mem_decodeReferences false (null_not_mem_map_showNull _))
      (fun e => by rw [kind] at e; cases e), stack _, rawLength_stops _ _⟩
  | raw =>
    exact ⟨text (null_not_mem_map_showNull _)
      (fun _ => noEndTag_rawLength (rawName_of_reading rawName).visible s), stack _,
      rawLength_stops _ _⟩
  | script =>
    obtain rfl := reading_script kind
    exact ⟨text (null_not_mem_map_showNull _) (fun e => by rw [kind] at e; cases e), stack _,
      scriptLength_stops _ _⟩
  | verbatim =>
    exact ⟨text (null_not_mem_map_showNull _) (fun e => by rw [kind] at e; cases e), stack _,
      .inl rfl⟩

/-! ## Steps -/

/-- What holds between two constructs of a markup text. -/
inductive Between (b : Builder) (s : List Char) : Prop where
  | ready (h : b.Ready)
  /-- an element without markup is to be ended, if the text does not end -/
  | raw (name : String) (outer : List String) (h : b.InStep) (top : b.stack = name :: outer)
      (rawName : reading name ≠ .markup) (markup : outer.all holdsMarkup = true)
      (ends : s = [] ∨ startsWithTag ['<', '/'] name.toList s = true)
  | ended (h : b.growing.Sound) (none : s = [])

theorem Between.sound {b : Builder} {s : List Char} (h : Between b s) : b.growing.Sound := by
  cases h with
  | ready h => exact h.inStep.sound
  | raw _ _ h => exact h.sound
  | ended h => exact h

/-- The end tag of an element without markup ends it. -/
theorem between_rawEnd (stage : Stage) {b : Builder} (h : b.InStep) {name : String}
    {outer : List String} (top : b.stack = name :: outer) (rawName : reading name ≠ .markup)
    (markup : outer.all holdsMarkup = true) {s : List Char}
    (ends : startsWithTag ['<', '/'] name.toList s = true) :
    (step stage b s).2.1.Ready := by
  obtain ⟨begins, inside, visible, -, -⟩ := rawName_of_reading rawName
  have noNull : '\x00' ∉ name.toList := fun null => (visible _ null).1 rfl
  obtain ⟨n, c, t, rfl, word, stop⟩ := startsWithTag_iff.1 ends
  have spelled : n.map nameChar = name.toList := by
    rw [← map_showNull_eq_self noNull, ← word, List.map_map]
    rfl
  cases n with
  | nil => simp [← spelled] at begins
  | cons d n =>
    have letter : isLetter d = true := by simpa [← spelled] using begins
    have name_eq : (Tag.read (d :: n ++ c :: t)).1.name = name := by
      have all : ∀ x ∈ d :: n, (!endsTagName x) = true := fun x hx => by
        rw [← endsTagName_nameChar, inside _ (spelled ▸ List.mem_map_of_mem hx)]
        rfl
      rw [Tag.read_eq, takeWhile_append_stop all (by simp [stop]), spelled, String.ofList_toList]
    have kept : ¬ (0 < b.dropped ∧ (name = "html" ∨ name = "body" ∨ name = "head")) := by
      rintro ⟨-, rfl | rfl | rfl⟩ <;> exact rawName (by decide)
    have pops : b.finish name = b.pop := by
      rw [Builder.finish, if_neg kept, top]
      simp [Builder.reach, Builder.popMany]
    rw [show ['<', '/'] ++ (d :: n) ++ c :: t = '<' :: '/' :: d :: (n ++ c :: t) by simp,
      step_endTag stage b letter]
    rw [List.cons_append] at name_eq
    rw [name_eq, pops]
    refine ⟨h.pop, ?_⟩
    rw [Builder.stack_pop, top]
    exact markup

/-- A start tag, and the text of its element if that is no markup. -/
theorem between_startTag {b : Builder} (h : b.Ready) {c : Char} (letter : isLetter c = true)
    (s : List Char) :
    let read := Tag.read (c :: s)
    let next :=
      if (b.start read.1).stack.head? = some read.1.name ∧ read.1.ending = .closed ∧
          reading read.1.name ≠ .markup then readRaw (b.start read.1) read.1.name read.2
      else (b.start read.1, read.2)
    Between next.1 next.2 := by
  obtain ⟨named, readable⟩ := Tag.read_readable letter s
  have started := h.start named readable
  have unfinished := Tag.read_unfinished (s := c :: s)
  dsimp only
  generalize Tag.read (c :: s) = read at named readable started unfinished ⊢
  rcases started with ready | ⟨rawName, ending, b', ready, admits, e⟩ | ⟨ending, sound⟩
  · rw [if_neg]
    · exact .ready ready
    -- a ready builder has no element without markup open, so the tag was dropped or ended at once
    · rintro ⟨top, -, rawName⟩
      have holds := List.all_eq_true.1 ready.markup _ (List.mem_of_mem_head? top)
      simp [holdsMarkup, rawName] at holds
  · have open' : (b'.push read.1.name read.1.attributes).stack.head? = some read.1.name := rfl
    rw [e, if_pos ⟨open', ending, rawName⟩]
    obtain ⟨inStep, top, ends⟩ := readRaw_inStep ready named readable admits rawName read.2
    exact .raw _ _ inStep top rawName ready.markup ends
  · rw [if_neg (by simp [ending])]
    exact .ended sound (unfinished ending)

/-- One construct leads from a point between two to another one. -/
theorem between_step {b : Builder} {s : List Char} (h : Between b s) (there : s ≠ [])
    (stage : Stage) : Between (step stage b s).2.1 (step stage b s).2.2 := by
  cases h with
  | ended _ none => exact absurd none there
  | raw name outer h top rawName markup ends =>
    exact .ready (between_rawEnd stage h top rawName markup (ends.resolve_left there))
  | ready h =>
    have plain (t : List Char) : Between (step.plain b t).2.1 (step.plain b t).2.2 :=
      .ready (h.addText (null_not_mem_decodeReferences false (null_not_mem_map_showNull _)))
    unfold step
    dsimp only
    generalize (if stage = .content then s else skipSpace s) = t
    split
    · next rest =>
      split
      · exact .ready (h.emitDoctype (gt_not_mem_read _))
      · split
        · exact .ready (h.emitComment (commentText_readComment _))
        · exact .ready (h.emitComment (commentText_readBogusComment _))
    · exact .ready (h.emitComment (commentText_readBogusComment _))
    · exact .ready h
    · split
      · exact .ready (h.finish _)
      · exact .ready (h.emitComment (commentText_readBogusComment _))
    · next c rest _ _ _ _ =>
      split
      · next letter =>
        have next := between_startTag h letter rest
        dsimp only at next ⊢
        split at next <;> rename_i raw
        · rwa [if_pos raw]
        · rwa [if_neg raw]
      · exact plain _
    · exact plain _

/-! ## Documents -/

/-- So any reading leaves a sound tree. -/
theorem sound_readAll (fuel : Nat) (stage : Stage) {b : Builder} {s : List Char}
    (h : Between b s) : (readAll fuel stage b s).growing.Sound := by
  induction fuel generalizing stage b s with
  | zero => exact h.sound
  | succ fuel ih =>
    cases s with
    | nil => exact h.sound
    | cons c s => exact ih _ (between_step h (List.cons_ne_nil _ _) stage)

theorem sound_popMany {b : Builder} (h : b.growing.Sound) (n : Nat) :
    (Builder.popMany n b).growing.Sound := by
  induction n generalizing b with
  | zero => exact h
  | succ n ih =>
    refine ih ?_
    cases hs : b.stack with
    | nil =>
      have same : b.pop = b := by rw [Builder.pop, hs]
      rwa [same]
    | cons name outer => exact Builder.growing_pop hs ▸ h.add_closing name

theorem ready_empty : Builder.empty.Ready where
  inStep := ⟨rfl, ⟨trivial, fun _ waits => by cases waits⟩⟩
  markup := rfl

/-- What a parsed tree holds fits where it stands. -/
theorem fits_parse (markup : List Char) : Fits .root (parse markup) := by
  have read := sound_readAll ((unifyLineEnds markup).length + 1) .start
    (.ready ready_empty : Between .empty (unifyLineEnds markup))
  have sound := sound_popMany read
  exact Growing.roots_fit ((sound _).settle.closeMany (Growing.pending_settle _) _).fits

end EpubLibrary.Html
