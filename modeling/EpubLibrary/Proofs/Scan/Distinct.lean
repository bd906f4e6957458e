import EpubLibrary.Proofs.Catalog.Growth
import EpubLibrary.Proofs.Epub.Leads
import EpubLibrary.Proofs.Scan.Claims

namespace EpubLibrary

open Epub (ExtractedBook)

variable {settings : ScanSettings} {t : Tables} {files : List Source} {bytes : Bytes}

/-- A book that was read has a record. -/
theorem exists_record (settings : ScanSettings) {x : ExtractedBook}
    (read : ExtractedBook.read bytes = .ok x) : ∃ r, BookRecord.derive x (contentDigest bytes)
      settings.root settings.compressionLevel = .ok r := by
  have level := settings.level_mem
  refine exists_derive _ _ ⟨by omega, ?_⟩ (Epub.read_leads read)
  unfold Payload.maxLevel
  omega

/-- The record of content is derived from what it parses to. -/
theorem recordOf_ok_iff {r : BookRecord} : recordOf settings bytes = .ok r ↔
    ∃ x, ExtractedBook.read bytes = .ok x ∧ BookRecord.derive x (contentDigest bytes)
      settings.root settings.compressionLevel = .ok r := by
  rw [recordOf, bind_ok_iff]
  simp only [mapError_ok_iff]

/-- Content without a record does not parse. -/
theorem recordOf_error_iff {cause : FailureCause} : recordOf settings bytes = .error cause ↔
    ∃ e, ExtractedBook.read bytes = .error e ∧ cause = .extract e := by
  cases read : ExtractedBook.read bytes with
  | ok x =>
    obtain ⟨r, derived⟩ := exists_record settings read
    rw [recordOf_ok_iff.2 ⟨x, read, derived⟩]
    simp
  | error e =>
    have failed : recordOf settings bytes = .error (.extract e) := by
      rw [recordOf, read]
      rfl
    rw [failed]
    simp [eq_comm]

/-! ## Identifiers -/

def contentsOf (files : List Source) : List Bytes := files.filterMap (·.content.toOption)

theorem mem_contentsOf : bytes ∈ contentsOf files ↔ ∃ f ∈ files, f.content = .ok bytes := by
  rw [contentsOf, List.mem_filterMap]
  refine exists_congr fun f => and_congr_right fun _ => ?_
  cases f.content <;> simp [Except.toOption]

def bookIdOf (settings : ScanSettings) (bytes : Bytes) : String :=
  (Identity.book settings.root (contentDigest bytes)).toText

/-- Distinct contents of the files have distinct identifiers, and those of content that is not
stored are neither taken nor repeated within it. -/
structure DistinctIds (settings : ScanSettings) (t : Tables) (files : List Source) : Prop where
  books : ∀ a ∈ contentsOf files, ∀ b ∈ contentsOf files, a ≠ b →
    bookIdOf settings a ≠ bookIdOf settings b
  chapters : ∀ a ∈ contentsOf files, ∀ b ∈ contentsOf files, a ≠ b → ∀ r q,
    recordOf settings a = .ok r → recordOf settings b = .ok q →
    ∀ c ∈ r.chapters, c.id ∉ q.chapters.map (·.id)
  toc : ∀ a ∈ contentsOf files, ∀ b ∈ contentsOf files, a ≠ b → ∀ r q,
    recordOf settings a = .ok r → recordOf settings b = .ok q →
    ∀ e ∈ r.toc, e.id ∉ q.toc.map (·.id)
  fresh : ∀ a ∈ contentsOf files, contentDigest a ∉ t.contentHashes → ∀ r,
    recordOf settings a = .ok r → r.Fresh t

/-- Do digests tell the contents of the files apart? The library takes them to do so: content is the
same to it if its digest is. -/
def TellApart (files : List Source) : Prop :=
  ∀ f ∈ files, ∀ g ∈ files, ∀ a b, f.content = .ok a → g.content = .ok b →
    contentDigest a = contentDigest b → a = b

/-- Unless digests tell the contents apart, two of them exhibit a collision of the hash. -/
theorem clash_or_tellApart (files : List Source) :
    (∃ a ∈ contentsOf files, ∃ b ∈ contentsOf files, a ≠ b ∧ contentDigest a = contentDigest b) ∨
      TellApart files := by
  by_cases clash : ∃ a ∈ contentsOf files, ∃ b ∈ contentsOf files,
      a ≠ b ∧ contentDigest a = contentDigest b
  · exact .inl clash
  · refine .inr fun f hf g hg a b ha hb same => ?_
    by_contra other
    exact clash ⟨a, mem_contentsOf.2 ⟨f, hf, ha⟩, b, mem_contentsOf.2 ⟨g, hg, hb⟩, other, same⟩

theorem DistinctIds.tellApart (h : DistinctIds settings t files) : TellApart files := by
  intro f hf g hg a b ha hb same
  by_contra ne
  refine h.books a (mem_contentsOf.2 ⟨f, hf, ha⟩) b (mem_contentsOf.2 ⟨g, hg, hb⟩) ne ?_
  rw [bookIdOf, bookIdOf, same]

theorem book_recordOf {r : BookRecord} (h : recordOf settings bytes = .ok r) :
    r.book.id = some (bookIdOf settings bytes) := by
  obtain ⟨x, derived⟩ := derived_recordOf h
  rw [derived.book]
  rfl

theorem shaped_recordOf {r : BookRecord} (h : recordOf settings bytes = .ok r) :
    r.Shaped (bookIdOf settings bytes) := by
  obtain ⟨x, derived⟩ := derived_recordOf h
  exact derived.shaped

/-- The records of files with different digests have nothing in common. -/
theorem DistinctIds.apart (h : DistinctIds settings t files) {f g : Source} (hf : f ∈ files)
    (hg : g ∈ files) {a b : Bytes} (ha : f.content = .ok a) (hb : g.content = .ok b)
    {r q : BookRecord} (hr : recordOf settings a = .ok r) (hq : recordOf settings b = .ok q)
    (ne : contentDigest a ≠ contentDigest b) : r.Apart q := by
  have memA := mem_contentsOf.2 ⟨f, hf, ha⟩
  have memB := mem_contentsOf.2 ⟨g, hg, hb⟩
  have other : a ≠ b := fun same => ne (congrArg contentDigest same)
  refine ⟨?_, ?_, h.chapters a memA b memB other r q hr hq, h.toc a memA b memB other r q hr hq⟩
  · rw [contentHash_recordOf hr, contentHash_recordOf hq]
    exact ne
  · rw [book_recordOf hr, book_recordOf hq]
    exact fun same => h.books a memA b memB other (Option.some.inj same)

end EpubLibrary
