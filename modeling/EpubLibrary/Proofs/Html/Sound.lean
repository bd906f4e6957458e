import EpubLibrary.Proofs.Html.Building

/-!
# Trees that grow

`Growing.Sound` holds of a growing tree whose nodes fit where they stand, open elements included,
and whose waiting text may be placed where the tree grows. Every event that is admitted there keeps
it.
-/

namespace EpubLibrary.Html

namespace Around

mutual

theorem bodySeen_past : ∀ (node : Node) {a : Around}, a.bodySeen = true →
    (a.past node).bodySeen = true
  | .text _ _, _, h => h
  | .element _ _ children, _, h => bodySeen_pastAll children (by simp [enter, h])

theorem bodySeen_pastAll : ∀ (nodes : List Node) {a : Around}, a.bodySeen = true →
    (a.pastAll nodes).bodySeen = true
  | [], _, h => h
  | node :: rest, _, h => bodySeen_pastAll rest (bodySeen_past node h)

end

/-- Whether text is taken depends on its being blank. -/
theorem Takes.congr {a : Around} {s t : List Char} (h : a.Takes s)
    (same : t.all isSpace = s.all isSpace) : a.Takes t := by
  unfold Takes at h ⊢
  rwa [same]

theorem Takes.not_void {a : Around} {s : List Char} (h : a.Takes s) {name : String}
    (top : a.stack.head? = some name) : isVoid name = false := by
  unfold Takes at h
  rw [top] at h
  by_cases isHtml : name = "html"
  · subst isHtml
    decide
  by_cases isHead : name = "head"
  · subst isHead
    decide
  simpa only [isHtml, isHead, if_false] using h

theorem isShown_textKind (a : Around) : a.textKind.isShown = true := by
  have shown (names : List String) (kind : TextKind) (h : names.findSome? textKindOf? = some kind) :
      kind.isShown = true := by
    obtain ⟨name, -, found⟩ := List.exists_of_findSome?_eq_some h
    unfold textKindOf? at found
    split_ifs at found <;> cases found <;> rfl
  rw [textKind]
  cases kind : a.stack.findSome? textKindOf? with
  | none => rfl
  | some kind' => exact shown _ _ kind

end Around

namespace Growing

def place (roots : List Node) : List Frame → Around
  | [] => Around.root.pastAll roots.reverse
  | f :: outer => ((place roots outer).enter f.name).pastAll f.children.reverse

/-- Open elements that fit, as far as they have grown. -/
def FramesFit (roots : List Node) : List Frame → Prop
  | [] => Fits .root roots.reverse
  | f :: outer =>
    ElementFits (place roots outer) f.name f.attributes f.children.reverse ∧
      Fits ((place roots outer).enter f.name) f.children.reverse ∧ FramesFit roots outer

def around (g : Growing) : Around := place g.roots g.frames

@[simp] theorem stack_place (roots : List Node) (frames : List Frame) :
    (place roots frames).stack = frames.map (·.name) := by
  induction frames with
  | nil => exact Around.pastAll_stack _ _
  | cons f outer ih => rw [place, Around.pastAll_stack, Around.enter, ih, List.map_cons]

theorem stack_around (g : Growing) : g.around.stack = g.names := stack_place _ _

theorem roots_fit {roots : List Node} {frames : List Frame} (h : FramesFit roots frames) :
    Fits .root roots.reverse := by
  induction frames with
  | nil => exact h
  | cons f outer ih => exact ih h.2.2

/-! ## Nodes behind the last -/

@[simp] theorem around_append (g : Growing) (node : Node) :
    (g.append node).around = g.around.past node := by
  obtain ⟨frames, roots, pending⟩ := g
  cases frames with
  | nil => simp [append, around, place, Around.pastAll_append, Around.pastAll]
  | cons f outer => simp [append, around, place, Around.pastAll_append, Around.pastAll]

/-- May the innermost element have the node as its next child? -/
def Room (g : Growing) (node : Node) : Prop :=
  ∀ f, g.frames.head? = some f → isVoid f.name = false ∧
    (reading f.name ≠ .markup → RawFits f.name (f.children.reverse ++ [node]))

theorem framesFit_append {g : Growing} {node : Node} (h : FramesFit g.roots g.frames)
    (fits : node.Fits g.around) (room : g.Room node) :
    FramesFit (g.append node).roots (g.append node).frames := by
  obtain ⟨frames, roots, pending⟩ := g
  cases frames with
  | nil =>
    change Fits .root (node :: roots).reverse
    rw [List.reverse_cons, fits_append]
    exact ⟨h, fits, trivial⟩
  | cons f outer =>
    obtain ⟨element, children, behind⟩ := h
    obtain ⟨notVoid, raw⟩ := room f rfl
    change ElementFits _ f.name f.attributes (node :: f.children).reverse ∧
      Fits _ (node :: f.children).reverse ∧ _
    rw [List.reverse_cons, fits_append]
    exact ⟨⟨element.named, element.kept, element.admitted, fun void => by simp [void] at notVoid,
      raw⟩, ⟨children, fits, trivial⟩, behind⟩

theorem head?_stack {g : Growing} {f : Frame} (top : g.frames.head? = some f) :
    g.around.stack.head? = some f.name := by
  rw [stack_around, names, List.head?_map, top]
  rfl

theorem holdsMarkup_of_isOpen {g : Growing} (h : g.around.isOpen = true) {f : Frame}
    (top : g.frames.head? = some f) : isVoid f.name = false ∧ reading f.name = .markup := by
  have holds : holdsMarkup f.name = true := by simpa [Around.isOpen, head?_stack top] using h
  simpa [holdsMarkup] using holds

/-- Where markup stands, there is room for all nodes. -/
theorem room_of_isOpen {g : Growing} (h : g.around.isOpen = true) (node : Node) : g.Room node := by
  intro f top
  obtain ⟨notVoid, markup⟩ := holdsMarkup_of_isOpen h top
  exact ⟨notVoid, fun raw => absurd markup raw⟩

/-! ## Waiting text -/

theorem collapse_cases (g : Growing) (s : List Char) : g.collapse s = s ∨
    (s.all isSpace = true ∧ (g.collapse s = [' '] ∨ g.collapse s = ['\n'])) := by
  unfold collapse
  split
  · next blank =>
    refine .inr ⟨(Bool.and_eq_true_iff.1 blank).1, ?_⟩
    split
    · exact .inr rfl
    · exact .inl rfl
  · exact .inl rfl

theorem all_isSpace_collapse (g : Growing) (s : List Char) :
    (g.collapse s).all isSpace = s.all isSpace := by
  rcases g.collapse_cases s with h | ⟨blank, h | h⟩ <;> rw [h]
  · rw [blank]
    decide
  · rw [blank]
    decide

/-- What holds of a text and of a space and a line feed holds of the collapsed text. -/
theorem collapse_induction {p : List Char → Prop} (g : Growing) {s : List Char} (h : p s)
    (space : p [' ']) (line : p ['\n']) : p (g.collapse s) := by
  rcases g.collapse_cases s with e | ⟨-, e | e⟩ <;> rw [e] <;> assumption

/-- A text that may be placed where the tree grows. -/
structure Accepts (g : Growing) (s : List Char) : Prop where
  there : s ≠ []
  noNull : '\x00' ∉ s
  takes : g.around.Takes s
  raw : ∀ f, g.frames.head? = some f → reading f.name ≠ .markup →
    f.children = [] ∧ (reading f.name = .raw → NoEndTag f.name.toList s)

/-- A tree whose nodes fit, and so will the text that waits. -/
structure Sound (g : Growing) : Prop where
  fits : FramesFit g.roots g.frames
  waits : ∀ s, g.pending = some s → g.Accepts s

theorem Accepts.textFits {g : Growing} {s : List Char} (h : g.Accepts s) :
    TextFits g.around g.around.textKind (g.collapse s) :=
  (textFits_iff (Around.isShown_textKind _)).2 ⟨rfl,
    g.collapse_induction (p := (· ≠ [])) h.there (by simp) (by simp),
    g.collapse_induction (p := ('\x00' ∉ ·)) h.noNull (by decide) (by decide),
    h.takes.congr (g.all_isSpace_collapse s), g.collapsed_collapse g.stack_around.symm s⟩

theorem Accepts.room {g : Growing} {s : List Char} (h : g.Accepts s) :
    g.Room (.text g.around.textKind (String.ofList (g.collapse s))) := by
  intro f top
  refine ⟨h.takes.not_void (head?_stack top), fun raw => ?_⟩
  obtain ⟨none, noEnd⟩ := h.raw f top raw
  rw [none, List.reverse_nil, List.nil_append, RawFits, String.toList_ofList]
  intro kind
  exact g.collapse_induction (p := NoEndTag f.name.toList) (noEnd kind) (.of_not_mem (by decide))
    (.of_not_mem (by decide))

@[simp] theorem around_settle (g : Growing) : g.settle.around = g.around := by
  unfold settle
  split
  · rfl
  · rw [around_append]
    rfl

theorem Sound.settle {g : Growing} (h : g.Sound) : g.settle.Sound := by
  cases pending : g.pending with
  | none => rwa [settle_eq_self pending]
  | some s =>
    have accepts := h.waits s pending
    have kind : g.textKind = g.around.textKind := textKind_eq g.stack_around.symm
    refine ⟨?_, fun t ht => ?_⟩
    · rw [Growing.settle, pending, kind]
      refine framesFit_append (g := { g with pending := none }) h.fits ?_ accepts.room
      rw [Node.Fits, String.toList_ofList]
      exact accepts.textFits
    · rw [pending_settle] at ht
      cases ht

/-! ## Events -/

theorem Sound.append {g : Growing} (h : g.Sound) (pending : g.pending = none) {node : Node}
    (fits : node.Fits g.around) (isOpen : g.around.isOpen = true) : (g.append node).Sound where
  fits := framesFit_append h.fits fits (room_of_isOpen isOpen node)
  waits := fun s waits => by
    rw [pending_append, pending] at waits
    cases waits

theorem Sound.add_comment {g : Growing} (h : g.Sound) (isOpen : g.around.isOpen = true)
    {s : List Char} (text : CommentText s) : (g.add (.comment s)).Sound := by
  refine h.settle.append (pending_settle g) ?_ (by rwa [around_settle])
  rw [Node.Fits, String.toList_ofList, around_settle]
  exact ⟨isOpen, g.collapse_induction text (.of_not_mem (by decide) (by decide))
    (.of_not_mem (by decide) (by decide)), g.collapsed_collapse g.stack_around.symm s⟩

theorem Sound.add_doctype {g : Growing} (h : g.Sound) (isOpen : g.around.isOpen = true)
    {s : String} (text : '>' ∉ s.toList) : (g.add (.doctype s)).Sound := by
  refine h.settle.append (pending_settle g) ?_ (by rwa [around_settle])
  rw [Node.Fits, around_settle]
  exact ⟨isOpen, text⟩

/-- The start of an element that is admitted where the tree grows keeps it sound. -/
theorem Sound.add_opening {g : Growing} (h : g.Sound) {name : String} {raw : Attributes}
    (named : TagName name) (readable : raw.Readable) (admits : g.around.Admits name) :
    (g.add (.opening name raw)).Sound where
  fits := by
    refine ⟨⟨named, ⟨raw, readable, rfl⟩, ?_, fun _ => rfl, fun _ => trivial⟩, trivial,
      h.settle.fits⟩
    change g.settle.around.Admits name
    rwa [around_settle]
  waits := fun s waits => by
    rw [pending_add_opening] at waits
    cases waits

theorem Sound.add_text {g : Growing} (h : g.Sound) {s : List Char} (accepts : g.Accepts s)
    (alone : g.around.isOpen = true ∨ g.pending = none) : (g.add (.text s)).Sound where
  fits := h.fits
  waits := by
    rintro t ⟨rfl⟩
    cases pending : g.pending with
    | none => exact ⟨accepts.there, accepts.noNull, accepts.takes, accepts.raw⟩
    -- Text waits only where markup stands, since an element without markup takes one text.
    | some u =>
      have waiting := h.waits u pending
      have isOpen : g.around.isOpen = true := alone.resolve_right (by simp [pending])
      refine ⟨by simp [accepts.there], by simp [waiting.noNull, accepts.noNull],
        waiting.takes.append accepts.takes, fun f top raw => ?_⟩
      exact absurd (holdsMarkup_of_isOpen isOpen top).2 raw

@[simp] theorem around_add_text (g : Growing) (s : List Char) :
    (g.add (.text s)).around = g.around := rfl

@[simp] theorem around_add_comment (g : Growing) (s : List Char) :
    (g.add (.comment s)).around = g.around := by
  rw [add, appendSpecial, around_append, around_settle]
  rfl

@[simp] theorem around_add_doctype (g : Growing) (s : String) :
    (g.add (.doctype s)).around = g.around := by
  rw [add, around_append, around_settle]
  rfl

@[simp] theorem around_add_opening (g : Growing) (name : String) (raw : Attributes) :
    (g.add (.opening name raw)).around = g.around.enter name := by
  rw [← around_settle g]
  rfl

/-! ## Ends of elements -/

theorem pending_close (g : Growing) : g.close.pending = g.pending := by
  unfold close
  split
  · rfl
  · exact pending_append _ _

/-- The end of an element keeps a tree sound. -/
theorem Sound.close {g : Growing} (h : g.Sound) (pending : g.pending = none) : g.close.Sound := by
  obtain ⟨frames, roots, waiting⟩ := g
  obtain rfl : waiting = none := pending
  cases frames with
  | nil => exact h
  | cons f outer =>
    obtain ⟨element, children, behind⟩ := h.fits
    have below : Sound ⟨outer, roots, none⟩ := ⟨behind, fun _ waits => by cases waits⟩
    exact below.append rfl ⟨element, children⟩ element.admitted.isOpen

theorem around_close {g : Growing} {name : String} {outer : List String}
    (h : g.names = name :: outer) : g.close.around = { g.around with stack := outer } := by
  obtain ⟨frames, roots, waiting⟩ := g
  cases frames with
  | nil => cases h
  | cons f frames =>
    obtain rfl : frames.map (·.name) = outer := (List.cons.inj h).2
    rw [close, around_append, ← stack_place roots]
    rfl

theorem Sound.closeMany {g : Growing} (h : g.Sound) (pending : g.pending = none) (n : Nat) :
    (closeMany n g).Sound := by
  induction n generalizing g with
  | zero => exact h
  | succ n ih => exact ih (h.close pending) (by rw [pending_close, pending])

/-- An end tag leaves a tree sound, whatever it ends. -/
theorem Sound.add_closing {g : Growing} (h : g.Sound) (name : String) :
    (g.add (.closing name)).Sound := by
  rw [add]
  split
  · exact h.settle
  · exact h.settle.closeMany (pending_settle g) _

theorem around_add_closing {g : Growing} {name : String} {outer : List String}
    (h : g.names = name :: outer) :
    (g.add (.closing name)).around = { g.around with stack := outer } := by
  rw [Growing.add_closing h, around_close (by rwa [names_settle]), around_settle]

end Growing

end EpubLibrary.Html
