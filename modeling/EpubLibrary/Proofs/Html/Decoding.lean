import EpubLibrary.Html.Encoding
import EpubLibrary.Proofs.Text.Utf16

namespace EpubLibrary.Html

open EpubLibrary.Text

/-! ## The first candidate -/

section
variable {bytes : Bytes} {name : List Char} {more : List (List Char)} {charset : Charset}

/-- A candidate that reads nothing but an empty text is passed over. -/
theorem fitting?_of_first {body : Bytes} {s : List Char} (known : findCharset? name = some charset)
    (fits : charset.decode? body = some s) :
    fitting? (name :: more) body = if s = [] then none else some charset := by
  have first : ((findCharset? name).filter fun c => (c.decode? body).isSome) = some charset := by
    simp [known, fits]
  unfold fitting?
  rw [List.findSome?_cons, first]
  simp only [fits, Option.some.injEq]

/-- The first candidate is chosen if it fits. Where it reads an empty text it is found again, as the
first that is known. -/
theorem chosenCharset?_of_first {s : List Char} (first : candidates bytes = name :: more)
    (known : findCharset? name = some charset) (other : name ≠ "ascii".toList)
    (fits : charset.decode? (splitMark bytes).2 = some s) :
    chosenCharset? bytes = some charset := by
  have again : ((name :: more).filter (· ≠ "ascii".toList)).findSome? findCharset? =
      some charset := by
    rw [List.filter_cons_of_pos (by simpa using other), List.findSome?_cons, known]
  unfold chosenCharset?
  dsimp only
  rw [first, fitting?_of_first known fits]
  by_cases empty : s = []
  · rw [if_pos empty]
    exact again
  · rw [if_neg empty]

/-- A document is what the first candidate reads in it, if that reads all of it. -/
theorem decodeMarkup_of_first {s : List Char} (first : candidates bytes = name :: more)
    (known : findCharset? name = some charset) (other : name ≠ "ascii".toList)
    (fits : charset.decode? (splitMark bytes).2 = some s) :
    decodeMarkup bytes = String.ofList s := by
  unfold decodeMarkup
  rw [chosenCharset?_of_first first known other fits]
  exact congrArg String.ofList (replacing_of_strict? fits)

end

/-! ## Marks -/

/-- Bytes that are UTF-8 have no mark, unless their text begins with one. -/
theorem splitMark_of_decode? {bytes : Bytes} {s : List Char} (text : Utf8.decode? bytes = some s)
    (unmarked : s.head? ≠ some '\ufeff') : splitMark bytes = (none, bytes) := by
  unfold splitMark
  split
  · next a b rest =>
    have none : Utf8.decode? (0xFE :: 0xFF :: a :: b :: rest) = none := rfl
    rw [none] at text
    cases text
  · next a b rest =>
    have none : Utf8.decode? (0xFF :: 0xFE :: a :: b :: rest) = none := rfl
    rw [none] at text
    cases text
  · next rest =>
    have first : Utf8.decode? (0xEF :: 0xBB :: 0xBF :: rest) =
        (Utf8.decode? rest).map (['\ufeff'] ++ ·) := rfl
    rw [first] at text
    obtain ⟨more, -, rfl⟩ := Option.map_eq_some_iff.1 text
    exact absurd rfl unmarked
  · next rest =>
    have none : Utf8.decode? (0 :: 0 :: 0xFE :: 0xFF :: rest) = none := rfl
    rw [none] at text
    cases text
  · rfl

/-- The encoding that a mark of UTF-16 tells. -/
def markName (order : Charset.ByteOrder) : String :=
  match order with
  | .little => "utf-16le"
  | .big => "utf-16be"

/-- Two bytes behind a mark of UTF-16 that are not both zero make it one. -/
theorem splitMark_utf16 (order : Charset.ByteOrder) {a b : UInt8} (some : ¬(a = 0 ∧ b = 0))
    (rest : Bytes) :
    splitMark (Utf16.mark order ++ a :: b :: rest) = (.some (markName order), a :: b :: rest) := by
  cases order with
  | little => exact if_neg some
  | big => exact if_neg some

theorem findCharset?_utf8 : findCharset? "utf-8".toList = some Charset.utf8 := rfl

theorem findCharset?_utf16 (order : Charset.ByteOrder) :
    findCharset? (markName order).toList = some (.ofRead (Charset.utf16 order)) := by
  cases order with
  | little => rfl
  | big => rfl

/-- What a mark tells is tried first. -/
theorem candidates_of_mark {bytes body : Bytes} {mark : String}
    (split : splitMark bytes = (some mark, body)) :
    ∃ more, candidates bytes = mark.toList :: more := by
  unfold candidates
  rw [split]
  exact ⟨_, List.eraseDups_cons⟩

/-- Without a mark and a declaration UTF-8 is tried first. -/
theorem candidates_of_none {bytes body : Bytes} (split : splitMark bytes = (none, body))
    (silent : declaredEncoding? body = none) :
    ∃ more, candidates bytes = "utf-8".toList :: more := by
  unfold candidates
  rw [split]
  dsimp only
  rw [silent]
  exact ⟨_, List.eraseDups_cons⟩

/-! ## Encoded documents -/

/-- The mark of UTF-8 decides, whatever the document declares. -/
theorem decodeMarkup_utf8Mark (s : String) :
    decodeMarkup (Charset.utf8Mark ++ Bytes.ofText s) = s := by
  have split : splitMark (Charset.utf8Mark ++ Bytes.ofText s) = (some "utf-8", Bytes.ofText s) :=
    rfl
  obtain ⟨more, first⟩ := candidates_of_mark split
  rw [decodeMarkup_of_first first findCharset?_utf8 (by decide), String.ofList_toList]
  rw [split]
  exact decode?_ofText s

/-- So do those of UTF-16. A null in front would make one of them a mark of UTF-32. -/
theorem decodeMarkup_utf16Mark (order : Charset.ByteOrder) {s : String} (some : s.toList ≠ [])
    (begins : s.toList.head? ≠ .some '\x00') :
    decodeMarkup (Utf16.mark order ++ Utf16.encode order s.toList) = s := by
  have split : splitMark (Utf16.mark order ++ Utf16.encode order s.toList) =
      (.some (markName order), Utf16.encode order s.toList) := by
    cases text : s.toList with
    | nil => exact absurd text some
    | cons c rest =>
      rw [text] at begins
      obtain ⟨a, b, more, bytes, nonzero⟩ := Utf16.encodeChar_begins order c
      rw [Utf16.encode, List.flatMap_cons, bytes]
      exact splitMark_utf16 order (nonzero fun h => begins (by rw [h]; rfl)) _
  obtain ⟨more, first⟩ := candidates_of_mark split
  have other : (markName order).toList ≠ "ascii".toList := by
    cases order with
    | little => decide
    | big => decide
  rw [decodeMarkup_of_first first (findCharset?_utf16 order) other, String.ofList_toList]
  rw [split]
  exact Utf16.decode?_encode order s.toList

/-- Where neither a mark nor a declaration says otherwise, a document is UTF-8. -/
theorem decodeMarkup_unmarked {s : String} (unmarked : s.toList.head? ≠ some '\ufeff')
    (silent : declaredEncoding? (Bytes.ofText s) = none) : decodeMarkup (Bytes.ofText s) = s := by
  have text : Utf8.decode? (Bytes.ofText s) = some s.toList := decode?_ofText s
  have split := splitMark_of_decode? text unmarked
  obtain ⟨more, first⟩ := candidates_of_none split silent
  rw [decodeMarkup_of_first first findCharset?_utf8 (by decide), String.ofList_toList]
  rw [split]
  exact text

/-- Decoding undoes encoding. A text behind the mark of its encoding is read back whatever encoding
it declares: in UTF-8 every text, also an empty one and one that begins with a mark of its own; in
UTF-16 every text that is not empty and does not begin with the character of number zero, whose unit
would make another mark. Without a mark a text in UTF-8 is read back if it begins with none and no
declared encoding is found in its bytes. -/
theorem decodeMarkup_encoded (s : String) :
    decodeMarkup (Charset.utf8Mark ++ Bytes.ofText s) = s ∧
    (∀ order, s.toList ≠ [] → s.toList.head? ≠ some '\x00' →
      decodeMarkup (Utf16.mark order ++ Utf16.encode order s.toList) = s) ∧
    (s.toList.head? ≠ some '\ufeff' → declaredEncoding? (Bytes.ofText s) = none →
      decodeMarkup (Bytes.ofText s) = s) := by
  refine ⟨decodeMarkup_utf8Mark s, ?_, decodeMarkup_unmarked⟩
  intro order some begins
  exact decodeMarkup_utf16Mark order some begins

/-- Behind the mark of big units, a text that begins with a second mark, declares a third encoding
and ends with a pair of surrogates; and without a mark, one whose words name an encoding but
declare none. -/
theorem decodeMarkup_encoded_misleading :
    let marked := "\ufeff<?xml encoding='utf-7'?><meta charset='ascii'/>+2AA-😀"
    let plain := "<p>charset=utf-7 é+2AA-</p>"
    (marked.toList ≠ [] ∧ marked.toList.head? ≠ some '\x00' ∧
      decodeMarkup (Utf16.mark .big ++ Utf16.encode .big marked.toList) = marked) ∧
    plain.toList.head? ≠ some '\ufeff' ∧ declaredEncoding? (Bytes.ofText plain) = none ∧
      decodeMarkup (Bytes.ofText plain) = plain := by
  intro marked plain
  have some : marked.toList ≠ [] := by decide +kernel
  have begins : marked.toList.head? ≠ Option.some '\x00' := by decide +kernel
  have unmarked : plain.toList.head? ≠ Option.some '\ufeff' := by decide +kernel
  have silent : declaredEncoding? (Bytes.ofText plain) = none := by
    rw [ofText_eq]
    decide +kernel
  exact ⟨⟨some, begins, (decodeMarkup_encoded marked).2.1 .big some begins⟩, unmarked, silent,
    (decodeMarkup_encoded plain).2.2 unmarked silent⟩

end EpubLibrary.Html
