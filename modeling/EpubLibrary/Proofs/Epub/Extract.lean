import EpubLibrary.Epub.Book
import EpubLibrary.Proofs.Epub.Toc

/-!
# What a package gives

`Package.Complete` says what a package must have, and `Package.Describes` which book it is then.
`Package.Gives` tells the one outcome of each package: the first check that fails, in the order
title, language, spine, chapters, table of contents, or the book.
-/

namespace EpubLibrary.Epub

/-! ## What a package must have -/

namespace Package

/-- The identifier that the package declares, if it says something. -/
def identifier (p : Package) : Option String := declared (p.dublinCore.text "identifier")

def metadata (p : Package) : BookMetadata :=
  ⟨p.dublinCore.text "title", p.dublinCore.text "language", p.dublinCore.text "identifier",
    declared (p.dublinCore.text "creator"), declared (p.dublinCore.text "description"),
    declared (p.dublinCore.text "publisher")⟩

def HasItem (p : Package) (id : Option String) : Prop := ∃ item ∈ p.items, item.id = id

instance (p : Package) (id : Option String) : Decidable (p.HasItem id) :=
  inferInstanceAs (Decidable (∃ item ∈ p.items, item.id = id))

/-- The items in reading order: those that the spine names, or all documents if it is empty. -/
def readingOrder (p : Package) : List Item :=
  if p.spine = [] then p.items.filter (·.kind.isDocument)
  else p.spine.filterMap (itemWithId? p.items)

def names (p : Package) : List String := p.readingOrder.map (·.name)

def entries (p : Package) : List Outline := Outline.flatten p.toc.roots

/-- The text of an item holds surrogates that stand alone. -/
def Unreadable (item : Item) : Prop := ∃ stray, Html.normalizeBytes item.content = .error stray

instance (item : Item) : Decidable (Unreadable item) :=
  match h : Html.normalizeBytes item.content with
  | .error stray => .isTrue ⟨stray, h⟩
  | .ok _ => .isFalse fun ⟨_, failed⟩ => nomatch h.symm.trans failed

/-- A package has a title, a language, all items of its spine and all targets of its table of
contents. -/
structure Complete (p : Package) : Prop where
  title : p.dublinCore.text "title" ≠ ""
  language : p.dublinCore.text "language" ≠ ""
  spine : ∀ id ∈ p.spine, p.HasItem id
  toc : ∀ entry ∈ p.entries, ¬ Broken p.names entry

/-- A book is the one in the package: a chapter for each item in reading order, and an entry for each
one of the table of contents that has a title and a reference. -/
structure Describes (p : Package) (x : ExtractedBook) : Prop where
  metadata : x.metadata = p.metadata
  chapters : List.Forall₂ (fun item chapter => Html.normalizeBytes item.content = .ok chapter)
    p.readingOrder x.chapters
  toc : ∃ pairs : List (Nat × String), x.toc = pairs.map (fun pair => ((pair.1 : Int), pair.2)) ∧
    List.Forall₂ (Leads p.names) (p.entries.filter (·.refers)) pairs

/-- The outcome of extraction: the first check that fails tells it. -/
inductive Gives (p : Package) : Except ExtractError ExtractedBook → Prop where
  | noTitle : p.dublinCore.text "title" = "" →
    Gives p (.error (.malformed ⟨.missingField "title", p.identifier⟩))
  | noLanguage : p.dublinCore.text "title" ≠ "" → p.dublinCore.text "language" = "" →
    Gives p (.error (.malformed ⟨.missingField "language", p.identifier⟩))
  | noItem {id : Option String} :
    p.dublinCore.text "title" ≠ "" → p.dublinCore.text "language" ≠ "" →
    IsFirst (fun id => ¬ p.HasItem id) p.spine id →
    Gives p (.error (.malformed ⟨.missingItem id, p.identifier⟩))
  | unreadable {item : Item} {stray : Text.Charset.Stray} :
    p.dublinCore.text "title" ≠ "" → p.dublinCore.text "language" ≠ "" →
    (∀ id ∈ p.spine, p.HasItem id) → IsFirst Unreadable p.readingOrder item →
    Html.normalizeBytes item.content = .error stray →
    Gives p (.error (.unencodable stray))
  | broken {entry : Outline} :
    p.dublinCore.text "title" ≠ "" → p.dublinCore.text "language" ≠ "" →
    (∀ id ∈ p.spine, p.HasItem id) → (∀ item ∈ p.readingOrder, ¬ Unreadable item) →
    IsFirst (Broken p.names) p.entries entry →
    Gives p (.error (.malformed ⟨.brokenReference entry.href, p.identifier⟩))
  | book {x : ExtractedBook} : p.Complete → p.Describes x → Gives p (.ok x)

end Package

/-! ## Stages -/

theorem itemWithId?_eq_none_iff {items : List Item} {id : Option String} :
    itemWithId? items id = none ↔ ¬ ∃ item ∈ items, item.id = id := by
  simp [itemWithId?]

/-- The items that a spine names stand in its order, repetitions included. -/
theorem forall₂_named {items : List Item} {spine : List (Option String)}
    (named : ∀ id ∈ spine, ∃ item ∈ items, item.id = id) :
    List.Forall₂ (fun id item => itemWithId? items id = some item) spine
      (spine.filterMap (itemWithId? items)) := by
  induction spine with
  | nil => exact .nil
  | cons id spine ih =>
    rw [List.forall_mem_cons] at named
    cases found : itemWithId? items id with
    | none => exact absurd named.1 (itemWithId?_eq_none_iff.1 found)
    | some item =>
      rw [List.filterMap_cons_some found]
      exact .cons found (ih named.2)

theorem namedItems_of_forall₂ {items found : List Item} {spine : List (Option String)}
    (h : List.Forall₂ (fun id item => itemWithId? items id = some item) spine found) :
    namedItems items spine = .ok found := by
  induction h with
  | nil => rfl
  | cons first _ ih =>
    rw [namedItems, first, ih]
    rfl

theorem namedItems_missing {items : List Item} {spine : List (Option String)} {id : Option String}
    (first : IsFirst (fun id => ¬ ∃ item ∈ items, item.id = id) spine id) :
    namedItems items spine = .error (.missingItem id) := by
  induction spine with
  | nil => exact absurd rfl first.ne_nil
  | cons other spine ih =>
    rw [namedItems]
    rcases first.cases with ⟨rfl, missing⟩ | ⟨named, first⟩
    · rw [itemWithId?_eq_none_iff.2 missing]
    · cases found : itemWithId? items other with
      | none => exact absurd (itemWithId?_eq_none_iff.1 found) named
      | some item =>
        rw [ih first]
        rfl

namespace Package

variable {p : Package}

theorem spineItems_ok (named : ∀ id ∈ p.spine, p.HasItem id) (identifier : String) :
    spineItems identifier p.items p.spine = .ok p.readingOrder := by
  rw [spineItems, readingOrder]
  by_cases empty : p.spine = []
  · rw [if_pos empty, empty]
    rfl
  · rw [if_neg empty, if_neg (by simpa using empty),
      namedItems_of_forall₂ (forall₂_named named)]
    rfl

/-- The first entry of the spine without an item is told. -/
theorem spineItems_missing {id : Option String}
    (first : IsFirst (fun id => ¬ p.HasItem id) p.spine id) (identifier : String) : spineItems identifier p.items p.spine =
      .error ⟨.missingItem id, declared identifier⟩ := by
  have empty : p.spine.isEmpty ≠ true := by simpa using first.ne_nil
  rw [spineItems, if_neg empty, namedItems_missing first]
  rfl

end Package

theorem readChapters_ok {items : List Item} (readable : ∀ item ∈ items, ¬ Package.Unreadable item) :
    ∃ chapters, readChapters items = .ok chapters := by
  apply mapM_exists
  intro item mem
  cases result : Html.normalizeBytes item.content with
  | error stray => exact absurd ⟨stray, result⟩ (readable item mem)
  | ok chapter => exact ⟨chapter, rfl⟩

theorem readChapters_eq_ok_iff {items : List Item} {chapters : List String} :
    readChapters items = .ok chapters ↔
      List.Forall₂ (fun item chapter => Html.normalizeBytes item.content = .ok chapter)
        items chapters := by
  rw [readChapters, mapM_ok_iff]
  simp only [mapError_ok_iff]

/-- The first text with surrogates that stand alone ends the reading. -/
theorem readChapters_unreadable {items : List Item} {item : Item} {stray : Text.Charset.Stray}
    (first : IsFirst Package.Unreadable items item)
    (failed : Html.normalizeBytes item.content = .error stray) :
    readChapters items = .error (.unencodable stray) := by
  have fails : ∀ item : Item, (∃ e, (Html.normalizeBytes item.content).mapError
      ExtractError.unencodable = .error e) ↔ Package.Unreadable item := by
    intro item
    rw [Package.Unreadable]
    cases Html.normalizeBytes item.content <;> simp [Except.mapError]
  apply mapM_error (a := item)
  · simpa only [fails] using first
  · rw [failed]
    rfl

/-! ## Extraction -/

namespace Package

variable {p : Package}

theorem ofDublinCore_ok (title : p.dublinCore.text "title" ≠ "")
    (language : p.dublinCore.text "language" ≠ "") :
    BookMetadata.ofDublinCore p.dublinCore = .ok p.metadata := by
  rw [BookMetadata.ofDublinCore, if_neg title, if_neg language]
  rfl

/-- Extraction goes on with the items in reading order if the first checks pass. -/
theorem extract_of_items (title : p.dublinCore.text "title" ≠ "")
    (language : p.dublinCore.text "language" ≠ "") (named : ∀ id ∈ p.spine, p.HasItem id) :
    p.extract = (do
      let chapters ← readChapters p.readingOrder
      let toc ← (extractToc (p.dublinCore.text "identifier") p.toc p.names).mapError .malformed
      pure ⟨p.metadata, chapters, toc.map fun (i, title) => ((i : Int), title)⟩) := by
  rw [extract, ofDublinCore_ok title language]
  dsimp only [Except.mapError, bind, Except.bind]
  rw [spineItems_ok named]
  rfl

theorem Gives.extract_eq {result : Except ExtractError ExtractedBook} (h : p.Gives result) :
    p.extract = result := by
  cases h with
  | noTitle title =>
    rw [extract, BookMetadata.ofDublinCore, if_pos title]
    rfl
  | noLanguage title language =>
    rw [extract, BookMetadata.ofDublinCore, if_neg title, if_pos language]
    rfl
  | noItem title language first =>
    rw [extract, ofDublinCore_ok title language]
    dsimp only [Except.mapError, bind, Except.bind]
    rw [spineItems_missing first]
    rfl
  | unreadable title language named first failed =>
    rw [extract_of_items title language named, readChapters_unreadable first failed]
    rfl
  | broken title language named readable first =>
    obtain ⟨chapters, read⟩ := readChapters_ok readable
    rw [extract_of_items title language named, read, extractToc]
    dsimp only [bind, Except.bind]
    rw [← entries, resolveEntries_broken first]
    rfl
  | @book x complete describes =>
    obtain ⟨pairs, toc, leads⟩ := describes.toc
    have read : readChapters p.readingOrder = .ok x.chapters :=
      readChapters_eq_ok_iff.2 describes.chapters
    have resolved : resolveEntries p.names p.entries = .ok pairs := by
      obtain ⟨found, resolved, found_leads⟩ := resolveEntries_ok complete.toc
      rw [resolved, leads_unique found_leads leads]
    rw [extract_of_items complete.title complete.language complete.spine, read, extractToc]
    dsimp only [bind, Except.bind]
    rw [← entries, resolved, ← describes.metadata]
    dsimp only [Except.mapError, pure, Except.pure]
    rw [← toc]

/-- A complete package whose texts can be read describes a book. -/
theorem exists_describes (complete : p.Complete)
    (readable : ∀ item ∈ p.readingOrder, ¬ Unreadable item) : ∃ x, p.Describes x := by
  obtain ⟨chapters, read⟩ := readChapters_ok readable
  obtain ⟨pairs, _, leads⟩ := resolveEntries_ok complete.toc
  exact ⟨⟨p.metadata, chapters, pairs.map fun pair => ((pair.1 : Int), pair.2)⟩,
    rfl, readChapters_eq_ok_iff.1 read, pairs, rfl, leads⟩

theorem Describes.readable {x : ExtractedBook} (describes : p.Describes x) :
    ∀ item ∈ p.readingOrder, ¬ Unreadable item := by
  rintro item mem ⟨stray, failed⟩
  obtain ⟨chapter, _, read⟩ := exists_of_forall₂ describes.chapters.flip mem
  rw [failed] at read
  cases read

/-- One of the outcomes is there for every package. -/
theorem exists_gives (p : Package) : ∃ result, p.Gives result := by
  by_cases title : p.dublinCore.text "title" = ""
  · exact ⟨_, .noTitle title⟩
  by_cases language : p.dublinCore.text "language" = ""
  · exact ⟨_, .noLanguage title language⟩
  by_cases missing : ∃ id ∈ p.spine, ¬ p.HasItem id
  · obtain ⟨id, first⟩ := exists_isFirst missing
    exact ⟨_, .noItem title language first⟩
  have named : ∀ id ∈ p.spine, p.HasItem id := by simpa using missing
  by_cases unreadable : ∃ item ∈ p.readingOrder, Unreadable item
  · obtain ⟨item, first⟩ := exists_isFirst unreadable
    obtain ⟨stray, failed⟩ := first.holds
    exact ⟨_, .unreadable title language named first failed⟩
  have readable : ∀ item ∈ p.readingOrder, ¬ Unreadable item := by simpa using unreadable
  by_cases broken : ∃ entry ∈ p.entries, Broken p.names entry
  · obtain ⟨entry, first⟩ := exists_isFirst broken
    exact ⟨_, .broken title language named readable first⟩
  have fine : ∀ entry ∈ p.entries, ¬ Broken p.names entry := by simpa using broken
  have complete : p.Complete := ⟨title, language, named, fine⟩
  obtain ⟨x, describes⟩ := exists_describes complete readable
  exact ⟨.ok x, .book complete describes⟩

/-- Extraction gives the one outcome that the package has. -/
theorem extract_eq_iff {result : Except ExtractError ExtractedBook} :
    p.extract = result ↔ p.Gives result := by
  refine ⟨?_, Gives.extract_eq⟩
  rintro rfl
  obtain ⟨result, gives⟩ := p.exists_gives
  rw [gives.extract_eq]
  exact gives

/-! ## Books -/

/-- A text is not empty and has no blanks at its ends. -/
def Tidy (s : String) : Prop := s ≠ "" ∧ Text.stripText s = s

theorem stripped_text (dc : DublinCore) (field : String) :
    Text.stripText (dc.text field) = dc.text field := by
  have blank : Text.stripText "" = "" := rfl
  rw [DublinCore.text]
  split
  · rename_i entry _ _
    cases entry with
    | bare value => exact Text.stripText_stripText _
    | tagged value =>
      rw [MetaEntry.toText]
      split
      · exact blank
      · exact Text.stripText_stripText _
  · exact blank

theorem stripped_title (entry : Outline) : Text.stripText entry.title = entry.title := by
  have blank : Text.stripText "" = "" := rfl
  rw [Outline.title.eq_def]
  split
  · exact Text.stripText_stripText _
  · exact blank

theorem declared_ne_empty (s : String) : declared s ≠ some "" := by
  rw [declared]
  split
  · exact nofun
  · rename_i filled
    intro same
    exact filled (Option.some_inj.1 same)

/-- What each book holds that a package gives. -/
theorem Describes.tidy {x : ExtractedBook} (complete : p.Complete) (describes : p.Describes x) :
    Tidy x.metadata.title ∧ Tidy x.metadata.language ∧ x.metadata.creator ≠ some "" ∧
      x.metadata.description ≠ some "" ∧ x.metadata.publisher ≠ some "" ∧
      ∀ entry ∈ x.toc, 0 ≤ entry.1 ∧ entry.1 < x.chapters.length ∧ Tidy entry.2 := by
  rw [describes.metadata]
  refine ⟨⟨complete.title, stripped_text _ _⟩, ⟨complete.language, stripped_text _ _⟩,
    declared_ne_empty _, declared_ne_empty _, declared_ne_empty _, ?_⟩
  obtain ⟨pairs, toc, leads⟩ := describes.toc
  have length : p.names.length = x.chapters.length := by
    rw [names, List.length_map, describes.chapters.length_eq]
  intro entry mem
  rw [toc, List.mem_map] at mem
  obtain ⟨pair, mem, rfl⟩ := mem
  obtain ⟨source, referring, found, title⟩ := exists_of_forall₂ leads mem
  have refers : source.refers = true := (List.mem_filter.1 referring).2
  have inside := target?_lt found
  refine ⟨by omega, by dsimp only; omega, ?_⟩
  dsimp only
  rw [title]
  exact ⟨fun empty => refers_iff.1 refers (.inl empty), stripped_title source⟩

/-- Each entry of the spine, or else each document, has one chapter. -/
theorem Describes.chapter_of_each {x : ExtractedBook} (complete : p.Complete)
    (describes : p.Describes x) :
    (p.spine ≠ [] → List.Forall₂ (fun id chapter => ∃ item, itemWithId? p.items id = some item ∧
      Html.normalizeBytes item.content = .ok chapter) p.spine x.chapters) ∧
    (p.spine = [] → List.Forall₂ (fun item chapter =>
      Html.normalizeBytes item.content = .ok chapter)
      (p.items.filter (·.kind.isDocument)) x.chapters) := by
  have chapters := describes.chapters
  rw [readingOrder] at chapters
  refine ⟨fun filled => ?_, fun empty => ?_⟩
  · rw [if_neg filled] at chapters
    exact forall₂_trans (forall₂_named complete.spine) chapters
  · rw [if_pos empty] at chapters
    exact chapters

/-- Extraction gives a book exactly if the package is complete and every chapter can be read, and
otherwise tells the first check that fails. The book has one chapter for each entry of the spine, or
for each document if the spine is empty, and all it tells is stripped and leads to its chapters. -/
theorem extract_outcome (p : Package) :
    ((∃ x, p.extract = .ok x) ↔ p.Complete ∧ ∀ item ∈ p.readingOrder, ¬ Unreadable item) ∧
    (∀ result, p.extract = result ↔ p.Gives result) ∧
    ∀ x, p.extract = .ok x →
      ((p.spine ≠ [] → List.Forall₂ (fun id chapter => ∃ item, itemWithId? p.items id = some item ∧
        Html.normalizeBytes item.content = .ok chapter) p.spine x.chapters) ∧
      (p.spine = [] → List.Forall₂ (fun item chapter =>
        Html.normalizeBytes item.content = .ok chapter)
        (p.items.filter (·.kind.isDocument)) x.chapters)) ∧
      Tidy x.metadata.title ∧ Tidy x.metadata.language ∧ x.metadata.creator ≠ some "" ∧
      x.metadata.description ≠ some "" ∧ x.metadata.publisher ≠ some "" ∧
      ∀ entry ∈ x.toc, 0 ≤ entry.1 ∧ entry.1 < x.chapters.length ∧ Tidy entry.2 := by
  refine ⟨⟨?_, ?_⟩, fun _ => extract_eq_iff, fun x done => ?_⟩
  · rintro ⟨x, done⟩
    cases extract_eq_iff.1 done with
    | book complete describes => exact ⟨complete, describes.readable⟩
  · rintro ⟨complete, readable⟩
    obtain ⟨x, describes⟩ := exists_describes complete readable
    exact ⟨x, Gives.extract_eq (.book complete describes)⟩
  · cases extract_eq_iff.1 done with
    | book complete describes => exact ⟨describes.chapter_of_each complete, describes.tidy complete⟩

/-! ## Two packages -/

def samplePackage : Package where
  dublinCore := [("title", [.tagged (.text " T ")]), ("language", [.bare (.text "en")])]
  items := [⟨some "a", "t/a.x", .document, Bytes.ofText "<p>a</p>"⟩, ⟨some "b", "b.x", .other, []⟩]
  spine := [some "b", some "a", some "b"]
  toc := .group [.branch (.leaf .heading (some "a.x#n") (some " One ")) [.blank]]

theorem extract_outcome_sample :
    (samplePackage.Complete ∧ ∀ item ∈ samplePackage.readingOrder, ¬ Unreadable item) ∧
    ∃ x, samplePackage.extract = .ok x ∧ Tidy x.metadata.title := by
  have complete : samplePackage.Complete :=
    ⟨by decide +kernel, by decide +kernel, by decide +kernel, by decide +kernel⟩
  have readable : ∀ item ∈ samplePackage.readingOrder, ¬ Unreadable item := by
    decide +kernel
  obtain ⟨x, done⟩ := (extract_outcome samplePackage).1.2 ⟨complete, readable⟩
  exact ⟨⟨complete, readable⟩, x, done, ((extract_outcome samplePackage).2.2 x done).2.1⟩

/-- A package of one page, whose text is half of a character. -/
def strayPackage : Package where
  dublinCore := [("title", [.tagged (.text "T")]), ("language", [.tagged (.text "en")])]
  items := [⟨some "a", "a.x", .document, Bytes.ofText "<meta charset=utf-7>+2AA-"⟩]
  spine := [some "a"]
  toc := .group []

/-- A complete package gives no book if a chapter holds surrogates that stand alone. -/
theorem extract_strays : strayPackage.Complete ∧
    strayPackage.extract = .error (.unencodable ⟨20, [0xD800]⟩) := by
  have complete : strayPackage.Complete :=
    ⟨by decide +kernel, by decide +kernel, by decide +kernel, by decide +kernel⟩
  exact ⟨complete, by decide +kernel⟩

end Package

end EpubLibrary.Epub
