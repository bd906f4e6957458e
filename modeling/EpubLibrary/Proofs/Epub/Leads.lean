import EpubLibrary.Epub.Book
import EpubLibrary.Proofs.Results

namespace EpubLibrary.Epub

theorem target?_lt {href : String} {names : List String} {i : Nat}
    (h : target? href names = some i) : i < names.length := by
  unfold target? at h
  dsimp only at h
  split at h
  · cases h
  split at h
  · rename_i found
    cases h
    simpa using (List.findIdx?_eq_some_iff_getElem.1 found).1
  · simpa using (List.findIdx?_eq_some_iff_getElem.1 h).1

/-- Entries lead to positions of the spine. -/
theorem resolveEntries_lt {names : List String} {entries : List Outline}
    {toc : List (Nat × String)} (h : resolveEntries names entries = .ok toc) :
    ∀ entry ∈ toc, entry.1 < names.length := by
  induction entries generalizing toc with
  | nil =>
    cases h
    intro entry mem
    cases mem
  | cons entry rest ih =>
    unfold resolveEntries at h
    split at h
    · exact ih h
    split at h
    · cases h
    rename_i i found
    split at h
    · cases h
    · rename_i more resolved
      cases h
      intro e he
      rcases List.mem_cons.1 he with rfl | he
      · exact target?_lt found
      · exact ih resolved e he

theorem extractToc_lt {identifier : String} {outline : Outline} {names : List String}
    {toc : List (Nat × String)} (h : extractToc identifier outline names = .ok toc) :
    ∀ entry ∈ toc, entry.1 < names.length :=
  resolveEntries_lt (mapError_ok_iff.1 h)

/-- Every entry of a book that was read leads to one of its chapters. -/
theorem read_leads {bytes : Bytes} {x : ExtractedBook} (h : ExtractedBook.read bytes = .ok x) :
    ∀ entry ∈ x.toc, 0 ≤ entry.1 ∧ entry.1 < x.chapters.length := by
  unfold ExtractedBook.read at h
  split at h
  · cases h
  · rename_i p _
    obtain ⟨metadata, _, h⟩ := bind_ok_iff.1 h
    obtain ⟨items, _, h⟩ := bind_ok_iff.1 h
    obtain ⟨chapters, read, h⟩ := bind_ok_iff.1 h
    obtain ⟨toc, resolved, h⟩ := bind_ok_iff.1 h
    cases h
    have length : items.length = chapters.length := (mapM_ok_iff.1 read).length_eq
    intro entry mem
    obtain ⟨e, he, rfl⟩ := List.mem_map.1 mem
    have inside := extractToc_lt (mapError_ok_iff.1 resolved) e he
    rw [List.length_map, length] at inside
    dsimp only
    omega

end EpubLibrary.Epub
