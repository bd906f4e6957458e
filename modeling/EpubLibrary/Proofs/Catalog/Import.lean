import EpubLibrary.Catalog.Import
import EpubLibrary.Proofs.Catalog.Valid

namespace EpubLibrary

namespace Tables

/-! ## Putting in many rows -/

section
variable {Draft Row : Type} {add : Tables → Draft → Except StoreError Tables}
  {draft : Row → Draft} {size : Row → Int} {more : Tables → List Row → Tables}

/-- If one row is put in exactly when the tables with it are valid, so are many. -/
theorem foldlM_ok_iff (nothing : ∀ t, more t [] = t)
    (both : ∀ t l m, more (more t l) m = more t (l ++ m))
    (fewer : ∀ t, t.Valid → ∀ l m, (more t (l ++ m)).Valid → (more t l).Valid)
    (one : ∀ t t', t.Valid → ∀ d, add t d = .ok t' ↔
      ∃ a, d = draft a ∧ Cell.fits (size a) = true ∧ t' = more t [a] ∧ t'.Valid)
    {t t' : Tables} (h : t.Valid) {drafts : List Draft} :
    drafts.foldlM add t = .ok t' ↔ ∃ l, drafts = l.map draft ∧
      (∀ a ∈ l, Cell.fits (size a) = true) ∧ t' = more t l ∧ t'.Valid := by
  induction drafts generalizing t with
  | nil =>
    rw [List.foldlM_nil]
    constructor
    · intro eq
      cases eq
      exact ⟨[], rfl, by simp, (nothing _).symm, h⟩
    · rintro ⟨l, eq, _, rfl, _⟩
      rw [List.map_eq_nil_iff.1 eq.symm, nothing]
      rfl
  | cons d drafts ih =>
    rw [List.foldlM_cons, bind_ok_iff]
    constructor
    · rintro ⟨u, first, rest⟩
      obtain ⟨a, rfl, fit, rfl, v⟩ := (one t u h d).1 first
      obtain ⟨l, rfl, fits, rfl, v'⟩ := (ih v).1 rest
      exact ⟨a :: l, rfl, List.forall_mem_cons.2 ⟨fit, fits⟩, both t [a] l, v'⟩
    · rintro ⟨l, eq, fits, rfl, v⟩
      obtain ⟨a, l, rfl, rfl, rfl⟩ := List.map_eq_cons_iff.1 eq.symm
      obtain ⟨fit, fits⟩ := List.forall_mem_cons.1 fits
      have first : (more t [a]).Valid := fewer t h [a] l v
      refine ⟨more t [a], (one t _ h _).2 ⟨a, rfl, fit, rfl, first⟩, (ih first).2 ?_⟩
      exact ⟨l, rfl, fits, (both t [a] l).symm, v⟩

end

theorem addChapters_ok_iff {t t' : Tables} (h : t.Valid) {drafts : List ChapterDraft} :
    drafts.foldlM addChapter t = .ok t' ↔ ∃ cs : List Chapter, drafts = cs.map (·.draft) ∧
      (∀ c ∈ cs, Cell.fits c.index = true) ∧ t' = t.withChapters cs ∧ t'.Valid :=
  foldlM_ok_iff withChapters_nil withChapters_append
    (fun _ h _ _ v => h.fewerChapters v) (fun _ _ h => addChapter_ok_iff h) h

theorem addToc_ok_iff {t t' : Tables} (h : t.Valid) {drafts : List TocDraft} :
    drafts.foldlM addTocEntry t = .ok t' ↔ ∃ es : List TocEntry, drafts = es.map (·.draft) ∧
      (∀ e ∈ es, Cell.fits e.index = true) ∧ t' = t.withToc es ∧ t'.Valid :=
  foldlM_ok_iff withToc_nil withToc_append
    (fun _ h _ _ v => h.fewerEntries v) (fun _ _ h => addTocEntry_ok_iff h) h

/-- Can the rows of a record stand beside those of the tables? -/
structure Admits (t : Tables) (r : BookRecord) : Prop where
  chaptersFit : ∀ c ∈ r.chapters, Cell.fits c.index = true
  tocFits : ∀ e ∈ r.toc, Cell.fits e.index = true
  valid : (t.plus r).Valid

/-- Rows can be put in exactly if they are those of a record that the tables admit. -/
theorem addRecord_ok_iff {t t' : Tables} (h : t.Valid) {draft : RecordDraft} :
    t.addRecord draft = .ok t' ↔
      ∃ r : BookRecord, draft = r.draft ∧ t.Admits r ∧ t' = t.plus r := by
  obtain ⟨book, chapters, toc⟩ := draft
  simp only [addRecord, bind_ok_iff]
  constructor
  · rintro ⟨u, addBook, w, addChapters, addToc⟩
    obtain ⟨b, rfl, rfl, v⟩ := (addBook_ok_iff h _).1 addBook
    obtain ⟨cs, rfl, cfit, rfl, v⟩ := (addChapters_ok_iff v).1 addChapters
    obtain ⟨es, rfl, efit, rfl, v⟩ := (addToc_ok_iff v).1 addToc
    exact ⟨⟨b, cs, es⟩, rfl, ⟨cfit, efit, v⟩, rfl⟩
  · rintro ⟨r, eq, admits, rfl⟩
    cases eq
    have v := h.bookOfPlus admits.valid
    have w := h.chaptersOfPlus admits.valid
    exact ⟨_, (addBook_ok_iff h _).2 ⟨r.book, rfl, rfl, v⟩, _,
      (addChapters_ok_iff v).2 ⟨r.chapters, rfl, admits.chaptersFit, rfl, w⟩,
      (addToc_ok_iff w).2 ⟨r.toc, rfl, admits.tocFits, rfl, admits.valid⟩⟩

/-! ## What is refused -/

def FailsIn {α : Type} (errors : StoreError → Prop) (x : Except StoreError α) : Prop :=
  ∀ e, x = .error e → errors e

section
variable {errors : StoreError → Prop} {α β : Type}

theorem FailsIn.ok (a : α) : FailsIn errors (.ok a) := by
  intro e h
  cases h

theorem FailsIn.bind {x : Except StoreError α} {f : α → Except StoreError β}
    (first : FailsIn errors x) (rest : ∀ a, x = .ok a → FailsIn errors (f a)) :
    FailsIn errors (x >>= f) := by
  intro e h
  cases x with
  | error d =>
    cases h
    exact first _ rfl
  | ok a => exact rest a rfl e h

theorem failsIn_foldlM {add : Tables → α → Except StoreError Tables} {l : List α}
    (one : ∀ a ∈ l, ∀ t, FailsIn errors (add t a)) (t : Tables) :
    FailsIn errors (l.foldlM add t) := by
  induction l generalizing t with
  | nil => exact .ok t
  | cons a l ih =>
    obtain ⟨first, rest⟩ := List.forall_mem_cons.1 one
    rw [List.foldlM_cons]
    exact (first t).bind fun u _ => ih rest u

end

/-- Why rows are refused whose cells of text are given. -/
inductive Refuses (cells : List (Option LooseText)) : StoreError → Prop where
  | tooLarge : Refuses cells .tooLarge
  | violation (v : Violation) : Refuses cells (.violation v)
  | loose {x : Option LooseText} (mem : x ∈ cells) (loose : ¬ ∃ s : Option String, x = s.map .text)
      (u : Text.Charset.Stray) : Refuses cells (.unencodable u)

/-- Without loose texts only the size of an integer and the rules of the tables are in the way. -/
theorem Refuses.of_clean {r : RecordDraft} {e : StoreError} (h : Refuses r.cells e)
    (clean : r.Clean) : e = .tooLarge ∨ ∃ v, e = .violation v := by
  cases h with
  | tooLarge => exact .inl rfl
  | violation v => exact .inr ⟨v, rfl⟩
  | loose mem loose => exact absurd (clean _ mem) loose

section
variable {cells : List (Option LooseText)}

theorem failsIn_refuse (broken : Bool) (v : Violation) :
    FailsIn (Refuses cells) (refuse broken v) := by
  intro e h
  cases broken <;> cases h
  exact .violation v

theorem failsIn_integer (n : Int) : FailsIn (Refuses cells) (Cell.integer n) := by
  intro e h
  unfold Cell.integer at h
  split at h <;> cases h
  exact .tooLarge

theorem failsIn_required {α : Type} (column : String) (x : Option α) :
    FailsIn (Refuses cells) (Cell.required column x) := by
  intro e h
  cases x <;> cases h
  exact .violation _

theorem failsIn_text? {x : Option LooseText} (mem : x ∈ cells) :
    FailsIn (Refuses cells) (Cell.text? x) := by
  intro e h
  obtain ⟨⟨u, rfl⟩, loose⟩ := Cell.text?_error h
  exact .loose mem loose u

theorem failsIn_bookRow {draft : BookDraft} (sub : draft.cells ⊆ cells) :
    FailsIn (Refuses cells) draft.row := by
  have text {x : Option LooseText} (mem : x ∈ draft.cells) := failsIn_text? (sub mem)
  refine (text ?_).bind fun _ _ => (text ?_).bind fun _ _ => (text ?_).bind fun _ _ =>
    (text ?_).bind fun _ _ => (text ?_).bind fun _ _ => (text ?_).bind fun _ _ =>
    (text ?_).bind fun _ _ => (text ?_).bind fun _ _ => (failsIn_required _ _).bind fun _ _ =>
    (failsIn_required _ _).bind fun _ _ => (failsIn_required _ _).bind fun _ _ =>
    (failsIn_required _ _).bind fun _ _ => .ok _
  all_goals simp [BookDraft.cells]

theorem failsIn_chapterRow {draft : ChapterDraft} (sub : draft.cells ⊆ cells) :
    FailsIn (Refuses cells) draft.row := by
  have text {x : Option LooseText} (mem : x ∈ draft.cells) := failsIn_text? (sub mem)
  refine (text ?_).bind fun _ _ => (text ?_).bind fun _ _ => (failsIn_integer _).bind fun _ _ =>
    (failsIn_required _ _).bind fun _ _ => (failsIn_required _ _).bind fun _ _ => .ok _
  all_goals simp [ChapterDraft.cells]

theorem failsIn_tocRow {draft : TocDraft} (sub : draft.cells ⊆ cells) :
    FailsIn (Refuses cells) draft.row := by
  have text {x : Option LooseText} (mem : x ∈ draft.cells) := failsIn_text? (sub mem)
  refine (text ?_).bind fun _ _ => (text ?_).bind fun _ _ => (failsIn_integer _).bind fun _ _ =>
    (text ?_).bind fun _ _ => (text ?_).bind fun _ _ => (failsIn_required _ _).bind fun _ _ =>
    (failsIn_required _ _).bind fun _ _ => (failsIn_required _ _).bind fun _ _ => .ok _
  all_goals simp [TocDraft.cells]

/-- Rows are refused for a broken rule, a large integer or a loose text, and for nothing else. -/
theorem failsIn_addRecord (t : Tables) (draft : RecordDraft) :
    FailsIn (Refuses draft.cells) (t.addRecord draft) := by
  have book : draft.book.cells ⊆ draft.cells := List.subset_append_left _ _
  have chapter (c : ChapterDraft) (hc : c ∈ draft.chapters) : c.cells ⊆ draft.cells := by
    intro x hx
    exact List.mem_append_right _
      (List.mem_append_left _ (List.mem_flatMap.2 ⟨c, hc, hx⟩))
  have entry (e : TocDraft) (he : e ∈ draft.toc) : e.cells ⊆ draft.cells := by
    intro x hx
    exact List.mem_append_right _
      (List.mem_append_right _ (List.mem_flatMap.2 ⟨e, he, hx⟩))
  have addBook (t : Tables) : FailsIn (Refuses draft.cells) (t.addBook draft.book) :=
    (failsIn_bookRow book).bind fun _ _ => (failsIn_refuse _ _).bind fun _ _ =>
      (failsIn_refuse _ _).bind fun _ _ => .ok _
  have addChapter (c : ChapterDraft) (hc : c ∈ draft.chapters) (t : Tables) :
      FailsIn (Refuses draft.cells) (t.addChapter c) :=
    (failsIn_chapterRow (chapter c hc)).bind fun _ _ => (failsIn_refuse _ _).bind fun _ _ =>
      (failsIn_refuse _ _).bind fun _ _ => (failsIn_refuse _ _).bind fun _ _ => .ok _
  have addEntry (e : TocDraft) (he : e ∈ draft.toc) (t : Tables) :
      FailsIn (Refuses draft.cells) (t.addTocEntry e) :=
    (failsIn_tocRow (entry e he)).bind fun _ _ => (failsIn_refuse _ _).bind fun _ _ =>
      (failsIn_refuse _ _).bind fun _ _ => (failsIn_refuse _ _).bind fun _ _ =>
      (failsIn_refuse _ _).bind fun _ _ => .ok _
  exact (addBook t).bind fun _ _ => (failsIn_foldlM addChapter _).bind fun _ _ =>
    failsIn_foldlM addEntry _

end

/-! ## What is looked up first -/

/-- Is the content of a draft stored under the identifier of the draft? -/
def Holds (t : Tables) (r : RecordDraft) : Prop :=
  ∃ b ∈ t.books, r.book.contentHash = some (.text b.contentHash) ∧ r.book.id = b.id.map .text

/-- An identifier of a draft is taken by other content. -/
inductive Collides (t : Tables) (r : RecordDraft) : Prop where
  /-- the digest is stored under another identifier -/
  | digest {b : Book} (stored : b ∈ t.books)
      (same : r.book.contentHash = some (.text b.contentHash)) (other : r.book.id ≠ b.id.map .text)
  /-- the identifier of the book is stored for another digest -/
  | book {b : Book} {id : String} (stored : b ∈ t.books) (derived : r.book.id = some (.text id))
      (same : b.id = some id) (other : r.book.contentHash ≠ some (.text b.contentHash))
  | repeated (h : ¬ (r.chapters.map (·.id)).Nodup)
  | chapter {c : ChapterDraft} {id : String} (mem : c ∈ r.chapters)
      (derived : c.id = some (.text id)) (stored : t.HasChapter id)

theorem length_eraseDups_le {α : Type} [BEq α] [LawfulBEq α] (l : List α) :
    l.eraseDups.length ≤ l.length := by
  induction hn : l.length using Nat.strongRecOn generalizing l with
  | ind n ih =>
    cases l with
    | nil => simp
    | cons a l =>
      have shorter : (l.filter fun b => !b == a).length ≤ l.length := List.length_filter_le _ _
      rw [List.length_cons] at hn
      have rest := ih _ (by omega) (l.filter fun b => !b == a) rfl
      rw [List.eraseDups_cons, List.length_cons]
      omega

theorem length_eraseDups_eq_iff {α : Type} [BEq α] [LawfulBEq α] {l : List α} :
    l.eraseDups.length = l.length ↔ l.Nodup := by
  induction l with
  | nil => simp
  | cons a l ih =>
    have bound := length_eraseDups_le (l.filter fun b => !b == a)
    have shorter : (l.filter fun b => !b == a).length ≤ l.length := List.length_filter_le _ _
    rw [List.eraseDups_cons, List.length_cons, List.length_cons, List.nodup_cons, ← ih]
    constructor
    · intro same
      have all : (l.filter fun b => !b == a).length = l.length := by omega
      have keeps := List.length_filter_eq_length_iff.1 all
      have eq : (l.filter fun b => !b == a) = l := List.filter_eq_self.2 keeps
      rw [eq] at same
      exact ⟨fun mem => by simpa using keeps a mem, by omega⟩
    · rintro ⟨new, same⟩
      have eq : (l.filter fun b => !b == a) = l := by
        refine List.filter_eq_self.2 fun b hb => ?_
        have ne : b ≠ a := by
          rintro rfl
          exact new hb
        simpa using ne
      rw [eq, same]

theorem bookByHash?_mem {t : Tables} {hash : Option String} {b : Book}
    (h : t.bookByHash? hash = some b) : b ∈ t.books ∧ hash = some b.contentHash := by
  rw [bookByHash?] at h
  have named := List.find?_some h
  obtain ⟨d, rfl, own⟩ := names_iff.1 named
  exact ⟨List.mem_of_find?_eq_some h, own.symm⟩

theorem bookByHash?_eq_none {t : Tables} {hash : Option String} (h : t.bookByHash? hash = none) :
    ∀ b ∈ t.books, hash ≠ some b.contentHash := by
  intro b hb same
  have := List.find?_eq_none.1 h b hb
  simp [names, same] at this

/-- Valid tables hold a digest once. -/
theorem Valid.book_unique {t : Tables} (h : t.Valid) {a b : Book} (ha : a ∈ t.books)
    (hb : b ∈ t.books) (same : a.contentHash = b.contentHash) : a = b :=
  List.inj_on_of_nodup_map h.digests ha hb same

theorem collide_ok_iff {taken : Bool} {c : Collision} {u : Unit} :
    collide taken c = .ok u ↔ taken = false := by
  cases taken <;> simp [collide]

theorem nodup_of_checkChapterIds {t : Tables} {chapters : List ChapterDraft} {u : Unit}
    (h : t.checkChapterIds chapters = .ok u) : (chapters.map (·.id)).Nodup := by
  obtain ⟨_, full, _⟩ := bind_ok_iff.1 h
  exact length_eraseDups_eq_iff.1 (by simpa [collide_ok_iff] using full)

theorem free_of_checkChapterIds {t : Tables} {chapters : List ChapterDraft} {u : Unit}
    (h : t.checkChapterIds chapters = .ok u) {c : ChapterDraft} (mem : c ∈ chapters) {i : String}
    (derived : c.id = some (.text i)) : ¬ t.HasChapter i := by
  obtain ⟨_, _, each⟩ := bind_ok_iff.1 h
  have free := forM_ok_iff.1 each c.id (List.mem_map_of_mem mem)
  rw [derived] at free
  obtain ⟨id, text, free⟩ := bind_ok_iff.1 free
  cases text
  rw [collide_ok_iff, chapterById?_free] at free
  exact free i rfl

/-- Is the row the stored one of a digest? -/
theorem holds_of_checkIds {t : Tables} {r : RecordDraft} (h : t.checkIds r = .ok true) :
    t.Holds r := by
  obtain ⟨hash, text, rest⟩ := bind_ok_iff.1 h
  rw [Cell.text?_ok_iff] at text
  split at rest
  · rename_i stored found
    obtain ⟨mem, rfl⟩ := bookByHash?_mem found
    obtain ⟨_, same, _⟩ := bind_ok_iff.1 rest
    have same : stored.id.map .text = r.book.id := by simpa [collide_ok_iff] using same
    exact ⟨stored, mem, text, same.symm⟩
  · obtain ⟨_, _, rest⟩ := bind_ok_iff.1 rest
    obtain ⟨_, _, rest⟩ := bind_ok_iff.1 rest
    obtain ⟨_, _, eq⟩ := bind_ok_iff.1 rest
    cases eq

theorem checkIds_of_holds {t : Tables} (h : t.Valid) {r : RecordDraft} (held : t.Holds r) :
    t.checkIds r = .ok true := by
  obtain ⟨b, hb, digest, id⟩ := held
  have found : t.bookByHash? (some b.contentHash) = some b := by
    cases found : t.bookByHash? (some b.contentHash) with
    | none => exact absurd rfl (bookByHash?_eq_none found b hb)
    | some stored =>
      obtain ⟨mem, same⟩ := bookByHash?_mem found
      rw [h.book_unique hb mem (Option.some.inj same)]
  have text : Cell.text? r.book.contentHash = .ok (some b.contentHash) :=
    Cell.text?_ok_iff.2 digest
  rw [checkIds, bind_ok_iff]
  refine ⟨_, text, ?_⟩
  rw [found, id]
  simp [collide, bind, Except.bind, pure, Except.pure]

/-- What passes is neither held nor taken. -/
theorem free_of_checkIds {t : Tables} {r : RecordDraft} (h : t.checkIds r = .ok false) :
    ¬ t.Holds r ∧ ¬ t.Collides r := by
  obtain ⟨hash, text, rest⟩ := bind_ok_iff.1 h
  rw [Cell.text?_ok_iff] at text
  split at rest
  · obtain ⟨_, _, eq⟩ := bind_ok_iff.1 rest
    cases eq
  · rename_i found
    have absent (b : Book) (hb : b ∈ t.books) :
        r.book.contentHash ≠ some (.text b.contentHash) := by
      have other := bookByHash?_eq_none found b hb
      rw [text]
      intro same
      simp at same
      exact other same
    obtain ⟨id, idText, rest⟩ := bind_ok_iff.1 rest
    obtain ⟨_, free, rest⟩ := bind_ok_iff.1 rest
    obtain ⟨_, chapters, _⟩ := bind_ok_iff.1 rest
    rw [Cell.text?_ok_iff] at idText
    rw [collide_ok_iff, book?_free] at free
    refine ⟨fun ⟨b, hb, same, _⟩ => absent b hb same, fun collides => ?_⟩
    cases collides with
    | digest stored same => exact absent _ stored same
    | book stored derived same =>
      refine free _ ?_ (List.mem_map.2 ⟨_, stored, same⟩)
      simpa [derived, eq_comm] using idText
    | repeated h => exact h (nodup_of_checkChapterIds chapters)
    | chapter mem derived stored => exact free_of_checkChapterIds chapters mem derived stored

/-- Why a draft is refused before any row is made. -/
inductive Stops (t : Tables) (r : RecordDraft) : StoreError → Prop where
  | taken (c : Collision) (collides : t.Collides r) : Stops t r (.collision c)
  | loose (u : Text.Charset.Stray) (loose : ¬ r.Clean) : Stops t r (.unencodable u)

section
variable {t : Tables} {r : RecordDraft}

theorem stops_text? {x : Option LooseText} (mem : x ∈ r.cells) :
    FailsIn (Stops t r) (Cell.text? x) := by
  intro e h
  obtain ⟨⟨u, rfl⟩, loose⟩ := Cell.text?_error h
  exact .loose u fun clean => loose (clean x mem)

theorem stops_collide {taken : Bool} {c : Collision} (collides : taken = true → t.Collides r) :
    FailsIn (Stops t r) (collide taken c) := by
  intro e h
  cases taken with
  | false => cases h
  | true =>
    cases h
    exact .taken c (collides rfl)

theorem stops_forM {α : Type} {f : α → Except StoreError Unit} {l : List α}
    (each : ∀ a ∈ l, FailsIn (Stops t r) (f a)) : FailsIn (Stops t r) (l.forM f) := by
  induction l with
  | nil => exact .ok ()
  | cons a l ih =>
    obtain ⟨first, rest⟩ := List.forall_mem_cons.1 each
    exact first.bind fun _ _ => ih rest

theorem stops_checkChapterIds : FailsIn (Stops t r) (t.checkChapterIds r.chapters) := by
  refine (stops_collide fun repeats => ?_).bind fun _ _ => stops_forM fun id mem => ?_
  · rw [decide_eq_true_eq, Ne, length_eraseDups_eq_iff] at repeats
    exact .repeated repeats
  · obtain ⟨c, hc, rfl⟩ := List.mem_map.1 mem
    have cell : c.id ∈ r.cells := List.mem_append_right _
      (List.mem_append_left _ (List.mem_flatMap.2 ⟨c, hc, List.mem_cons_self⟩))
    refine (stops_text? cell).bind fun id text => stops_collide fun taken => ?_
    obtain ⟨i, rfl, stored⟩ := chapterById?_isSome.1 taken
    exact .chapter hc (Cell.text?_ok_iff.1 text) stored

/-- What is looked up first stops for an identifier that is taken or for a loose text. -/
theorem stops_checkIds : FailsIn (Stops t r) (t.checkIds r) := by
  have hashCell : r.book.contentHash ∈ r.cells :=
    List.mem_append_left _ (by simp [BookDraft.cells])
  have idCell : r.book.id ∈ r.cells := List.mem_append_left _ List.mem_cons_self
  refine (stops_text? hashCell).bind fun hash text => ?_
  rw [Cell.text?_ok_iff] at text
  split
  · rename_i stored found
    obtain ⟨mem, rfl⟩ := bookByHash?_mem found
    refine (stops_collide fun other => ?_).bind fun _ _ => .ok true
    rw [decide_eq_true_eq] at other
    exact .digest mem text other.symm
  · rename_i found
    have absent := bookByHash?_eq_none found
    refine (stops_text? idCell).bind fun id idText => (stops_collide fun taken => ?_).bind
      fun _ _ => stops_checkChapterIds.bind fun _ _ => .ok false
    obtain ⟨i, rfl, has⟩ := book?_isSome.1 taken
    obtain ⟨b, hb, same⟩ := List.mem_map.1 has
    refine .book hb (Cell.text?_ok_iff.1 idText) same fun digest => absent b hb ?_
    simpa [text] using digest

end

/-! ## The whole import -/

/-- Content that is stored under the same identifier is not stored again. -/
theorem importDraft_held {t : Tables} (h : t.Valid) {r : RecordDraft} (held : t.Holds r) :
    t.importDraft r = .ok none := by
  rw [importDraft, checkIds_of_holds h held]
  rfl

/-- Content that is not held is refused for what is looked up first, or its rows are put in. -/
theorem importDraft_cases {t : Tables} {r : RecordDraft} (new : ¬ t.Holds r) :
    (∃ e, t.importDraft r = .error e ∧ Stops t r e) ∨
      ¬ t.Collides r ∧ t.importDraft r = some <$> t.addRecord r := by
  cases check : t.checkIds r with
  | error e =>
    refine .inl ⟨e, ?_, stops_checkIds e check⟩
    rw [importDraft, check]
    rfl
  | ok held =>
    cases held with
    | true => exact absurd (holds_of_checkIds check) new
    | false =>
      refine .inr ⟨(free_of_checkIds check).2, ?_⟩
      rw [importDraft, check]
      rfl

/-- An identifier that other content has is a collision, found before any row is put in. -/
theorem importDraft_collides {t : Tables} {r : RecordDraft} (clean : r.Clean)
    (new : ¬ t.Holds r) (collides : t.Collides r) :
    ∃ c, t.importDraft r = .error (.collision c) := by
  rcases importDraft_cases new with ⟨e, refused, stops⟩ | ⟨free, _⟩
  · cases stops with
    | taken c => exact ⟨c, refused⟩
    | loose u loose => exact absurd clean loose
  · exact absurd collides free

theorem importDraft_new {t : Tables} {r : RecordDraft} (clean : r.Clean) (new : ¬ t.Holds r)
    (free : ¬ t.Collides r) : t.importDraft r = some <$> t.addRecord r := by
  rcases importDraft_cases new with ⟨e, _, stops⟩ | ⟨_, added⟩
  · cases stops with
    | taken c collides => exact absurd collides free
    | loose u loose => exact absurd clean loose
  · exact added

/-- Nothing but a new record that collides with nothing adds rows. -/
theorem importDraft_adds {t t' : Tables} (h : t.Valid) {r : RecordDraft}
    (ok : t.importDraft r = .ok (some t')) : ¬ t.Holds r ∧ ¬ t.Collides r ∧
      ∃ rows : BookRecord, r = rows.draft ∧ t.Admits rows ∧ t' = t.plus rows := by
  by_cases held : t.Holds r
  · rw [importDraft_held h held] at ok
    cases ok
  rcases importDraft_cases held with ⟨e, refused, _⟩ | ⟨free, eq⟩
  · rw [refused] at ok
    cases ok
  · rw [eq, map_ok_iff] at ok
    obtain ⟨u, added, eq⟩ := ok
    cases eq
    exact ⟨held, free, (addRecord_ok_iff h).1 added⟩

end Tables
end EpubLibrary
