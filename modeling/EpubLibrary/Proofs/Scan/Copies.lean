import EpubLibrary.Proofs.Epub.Parts
import EpubLibrary.Proofs.ReadBack

namespace EpubLibrary

variable {settings : ScanSettings} {t : Tables} {files : List Source} {bytes : Bytes}
  {r : BookRecord}

/-- Of all contents of the files only one has a record, however many files hold it. -/
structure OneBook (settings : ScanSettings) (files : List Source) (bytes : Bytes)
    (r : BookRecord) : Prop where
  mem : bytes ∈ contentsOf files
  derived : recordOf settings bytes = .ok r
  only : ∀ a ∈ contentsOf files, ∀ q, recordOf settings a = .ok q → a = bytes

namespace OneBook

variable (h : OneBook settings files bytes r)

include h

theorem record_eq {a : Bytes} {q : BookRecord} (mem : a ∈ contentsOf files)
    (derived : recordOf settings a = .ok q) : q = r := by
  rw [h.only a mem q derived, h.derived] at derived
  exact (Except.ok.inj derived).symm

/-- It does not matter how often the contents occur. -/
theorem of_contents {others : List Source}
    (same : ∀ a, a ∈ contentsOf others ↔ a ∈ contentsOf files) :
    OneBook settings others bytes r :=
  ⟨(same bytes).2 h.mem, h.derived, fun a mem => h.only a ((same a).1 mem)⟩

/-- What has no record shares no identifiers of chapters or entries with anything. -/
theorem distinctIds (books : ∀ a ∈ contentsOf files, ∀ b ∈ contentsOf files, a ≠ b →
    bookIdOf settings a ≠ bookIdOf settings b) (fresh : r.Fresh t) :
    DistinctIds settings t files where
  books := books
  chapters a ha b hb other p q hp hq :=
    absurd ((h.only a ha p hp).trans (h.only b hb q hq).symm) other
  toc a ha b hb other p q hp hq :=
    absurd ((h.only a ha p hp).trans (h.only b hb q hq).symm) other
  fresh _ ha _ _ hq := h.record_eq ha hq ▸ fresh

theorem countable (short : r.Countable) :
    ∀ a ∈ contentsOf files, ∀ q, recordOf settings a = .ok q → q.Countable :=
  fun _ ha _ hq => h.record_eq ha hq ▸ short

end OneBook

/-! ## A shelf and some files -/

/-- A library that holds a book of one page. -/
def shelf : Store :=
  match BookRecord.derive Store.onePage "ab" Config.defaultRoot 19 with
  | .ok r => (Store.empty.importBook r).2
  | .error _ => .empty

theorem shelf_eq : ∃ q, BookRecord.derive Store.onePage "ab" Config.defaultRoot 19 = .ok q ∧
    shelf = (Store.empty.importBook q).2 ∧ shelf = Store.empty.plusAll [q] := by
  obtain ⟨q, derived⟩ : ∃ q,
      BookRecord.derive Store.onePage "ab" Config.defaultRoot 19 = .ok q :=
    exists_derive _ _ (by decide) (by decide)
  have made := derived_of_ok derived
  have added := Store.importBook_fresh Store.idle_empty.toSound Store.idle_empty.isIdle
    made.shaped (Store.fresh_onePage derived) (made.countable Store.holdable_onePage)
  have eq : shelf = (Store.empty.importBook q).2 := by
    rw [shelf, derived]
  exact ⟨q, derived, eq, by rw [eq, added]⟩

theorem books_shelf : ∃ b, shelf.tables.books = [b] ∧ b.contentHash = "ab" := by
  obtain ⟨q, derived, -, eq⟩ := shelf_eq
  refine ⟨q.book, by rw [eq]; rfl, ?_⟩
  rw [(derived_of_ok derived).book]

theorem history_shelf : Store.History .empty shelf := by
  obtain ⟨q, derived, eq, _⟩ := shelf_eq
  rw [eq]
  exact .single (.importDerived _ derived)

theorem reachable_shelf : shelf.Reachable := by
  obtain ⟨q, -, eq, -⟩ := shelf_eq
  rw [eq]
  exact .single (.importDraft _ _)

def leafSettings (workers : Int) : ScanSettings := .clamped Config.defaultRoot workers 8 false

/-- Two files with the same book, and one that is no archive. -/
def leafFiles : List Source :=
  [⟨⟨0, [['a']]⟩, .ok Epub.leaf⟩, ⟨⟨0, [['b']]⟩, .ok Epub.leaf⟩, ⟨⟨0, [['c']]⟩, .ok [0x50, 0x4B]⟩]

theorem readable_leafFiles : ∀ f ∈ leafFiles, ∃ a, f.content = .ok a := by
  simp [leafFiles]

theorem mem_contentsOf_leafFiles {a : Bytes} :
    a ∈ contentsOf leafFiles ↔ a = Epub.leaf ∨ a = [0x50, 0x4B] := by
  simp [contentsOf, leafFiles, Except.toOption]

theorem digest?_leafFiles {f : Source} (mem : f ∈ leafFiles) :
    ∃ a, (a = Epub.leaf ∨ a = [0x50, 0x4B]) ∧ f.digest? = some (contentDigest a) := by
  obtain ⟨a, content⟩ := readable_leafFiles f mem
  exact ⟨a, mem_contentsOf_leafFiles.1 (mem_contentsOf.2 ⟨f, mem, content⟩),
    digest?_eq_some.2 ⟨a, content, rfl⟩⟩

theorem contentDigest_leaf : contentDigest Epub.leaf =
    "fc4d742a39ba87c26486d7fbc6b51357fd0d35a692021ea7b983ba528d151406" := by
  decide +kernel

theorem contentDigest_short : contentDigest [0x50, 0x4B] =
    "fcab7fcc2b4cffd9bb45003bfc2e468a04ef6f77ca8200a7341f027631584d25" := by
  decide +kernel

theorem bookIdOf_leaf_ne (workers : Int) :
    bookIdOf (leafSettings workers) Epub.leaf ≠ bookIdOf (leafSettings workers) [0x50, 0x4B] := by
  rw [bookIdOf, bookIdOf, contentDigest_leaf, contentDigest_short]
  have root : (leafSettings workers).root = Config.defaultRoot := rfl
  rw [root]
  decide +kernel

theorem distinctBooks_leafFiles (workers : Int) :
    ∀ a ∈ contentsOf leafFiles, ∀ b ∈ contentsOf leafFiles, a ≠ b →
      bookIdOf (leafSettings workers) a ≠ bookIdOf (leafSettings workers) b := by
  have apart := bookIdOf_leaf_ne workers
  intro a ha b hb other
  rcases mem_contentsOf_leafFiles.1 ha with rfl | rfl
  · rcases mem_contentsOf_leafFiles.1 hb with rfl | rfl
    · exact absurd rfl other
    · exact apart
  · rcases mem_contentsOf_leafFiles.1 hb with rfl | rfl
    · exact apart.symm
    · exact absurd rfl other

theorem read_short : Epub.ExtractedBook.read [0x50, 0x4B] =
    .error (.malformed ⟨.unreadable .badArchive, none⟩) := by
  decide +kernel

/-- No file has the digest of the book on the shelf. -/
theorem digest_leafFiles_ne {a : Bytes} (mem : a = Epub.leaf ∨ a = [0x50, 0x4B]) :
    contentDigest a ≠ "ab" := by
  rcases mem with rfl | rfl
  · rw [contentDigest_leaf]
    decide
  · rw [contentDigest_short]
    decide

/-- The record of the book has nothing in common with the one on the shelf. -/
theorem fresh_leaf {workers : Int} (derived : recordOf (leafSettings workers) Epub.leaf = .ok r) :
    r.Fresh shelf.tables := by
  obtain ⟨q, stored, -, eq⟩ := shelf_eq
  obtain ⟨x, read, made⟩ := recordOf_ok_iff.1 derived
  rw [Epub.read_leaf] at read
  cases read
  have made := derived_of_ok made
  have old := derived_of_ok stored
  rw [contentDigest_leaf] at made
  have root : (leafSettings workers).root = Config.defaultRoot := rfl
  rw [root] at made
  have empty : r.toc = [] := List.forall₂_nil_left_iff.1 made.toc
  have alone : r.Fresh Store.empty.tables := by
    refine ⟨List.not_mem_nil, List.not_mem_nil, ?_, fun _ _ => List.not_mem_nil, ?_,
      fun _ _ => List.not_mem_nil⟩
    · rw [made.chapters]
      exact List.nodup_singleton _
    · rw [empty]
      exact List.nodup_nil
  rw [eq]
  refine alone.plusAll fun p mem => ?_
  rw [List.mem_singleton.1 mem]
  refine ⟨?_, ?_, ?_, by simp [empty]⟩
  · rw [made.book, old.book]
    decide
  · rw [made.book, old.book]
    decide +kernel
  · rw [made.chapters, old.chapters]
    decide +kernel

theorem exists_leafRecord (workers : Int) : ∃ r,
    OneBook (leafSettings workers) leafFiles Epub.leaf r ∧ r.Fresh shelf.tables ∧ r.Countable := by
  obtain ⟨r, made⟩ := exists_record (leafSettings workers) Epub.read_leaf
  have derived := recordOf_ok_iff.2 ⟨_, Epub.read_leaf, made⟩
  refine ⟨r, ⟨mem_contentsOf_leafFiles.2 (.inl rfl), derived, ?_⟩, fresh_leaf derived, ?_⟩
  · intro a mem q other
    rcases mem_contentsOf_leafFiles.1 mem with rfl | rfl
    · rfl
    · rw [recordOf_error_iff.2 ⟨_, read_short, rfl⟩] at other
      cases other
  · have made := derived_of_ok made
    constructor
    · simp [made.chapters]
    · rw [List.forall₂_nil_left_iff.1 made.toc]
      exact Nat.zero_le _

end EpubLibrary
