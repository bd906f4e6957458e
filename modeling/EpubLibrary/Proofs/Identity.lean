import Mathlib
import EpubLibrary.Identity
import EpubLibrary.Proofs.Text.Utf8
import EpubLibrary.Proofs.Uuid

/-!
# Identifiers and collisions

A `Derivation` is one way to an identifier, and `Derivation.input` the byte string that is hashed on
it: the bytes of the parent, then the name. Names of different kinds differ, because no digest holds
an `h` or a colon.
-/

namespace EpubLibrary

/-- The identifier of a byte string: the stamped start of its SHA-1 digest. -/
def Uuid.ofInput (input : Bytes) : Uuid := ofNat (stamp (Bytes.natBe ((Sha1.digest input).take 16)))

theorem Uuid.named_eq_ofInput (parent : Uuid) (name : Bytes) :
    parent.named name = ofInput (parent.bytes ++ name) := rfl

theorem Bytes.ofText_inj {s t : String} (h : ofText s = ofText t) : s = t := by
  have same := decode?_ofText s
  rw [h, decode?_ofText] at same
  exact (String.toList_inj.1 (Option.some.inj same)).symm

/-- A character that is no hexadecimal digit stands in no digest. -/
theorem not_mem_contentDigest {c : Char} (other : ∀ n < 16, Bytes.hexDigit n ≠ c) (data : Bytes) :
    c ∉ (contentDigest data).toList := by
  rw [contentDigest, Bytes.hex, String.toList_ofList]
  exact Bytes.not_mem_flatMap_hexByte other _

namespace Identity

/-! ## Names -/

/-- A printed index holds no colon, so the one behind it is found. -/
theorem colon_not_mem_toString (i : Int) : ':' ∉ (toString i).toList := by
  have digits (n : Nat) : ':' ∉ (Nat.repr n).toList := by
    rw [Nat.toList_repr]
    intro mem
    exact absurd (Nat.isDigit_of_mem_toDigits (by decide) (by decide) mem) (by decide)
  cases i with
  | ofNat n => exact digits n
  | negSucc n =>
    intro mem
    have mem : ':' ∈ ("-" ++ Nat.repr (n + 1)).toList := mem
    rw [String.toList_append, List.mem_append] at mem
    exact mem.elim (by decide) (digits _)

/-- The name of a chapter tells its index and the digest of its content. -/
theorem chapterName_inj {i j : Int} {a b : Bytes} (h : chapterName i a = chapterName j b) :
    i = j ∧ contentDigest a = contentDigest b := by
  have h := congrArg String.toList h
  have colon : ":".toList = [':'] := rfl
  simp only [chapterName, String.toList_append, List.append_assoc, colon, List.singleton_append] at h
  obtain ⟨index, -, digest⟩ := (List.append_cons_inj_of_notMem (colon_not_mem_toString i)
    (not_mem_contentDigest (by decide) a)).1 (List.append_cancel_left h)
  exact ⟨Int.repr_inj.1 (String.toList_inj.1 index), String.toList_inj.1 digest⟩

theorem tocName_inj {i j : Int} (h : tocName i = tocName j) : i = j := by
  have h := congrArg String.toList h
  simp only [tocName, String.toList_append] at h
  exact Int.repr_inj.1 (String.toList_inj.1 (List.append_cancel_left h))

theorem contentDigest_ne_chapterName (a b : Bytes) (i : Int) :
    contentDigest a ≠ chapterName i b := by
  intro h
  refine not_mem_contentDigest (c := 'h') (by decide) a ?_
  simp [h, chapterName, String.toList_append]

theorem contentDigest_ne_tocName (a : Bytes) (i : Int) : contentDigest a ≠ tocName i := by
  intro h
  refine not_mem_contentDigest (c := ':') (by decide) a ?_
  simp [h, tocName, String.toList_append]

theorem chapterName_ne_tocName (i j : Int) (a : Bytes) : chapterName i a ≠ tocName j := by
  intro h
  have h := congrArg (·.toList.head?) h
  simp [chapterName, tocName, String.toList_append] at h

/-! ## Derivations -/

/-- One way to an identifier. Chapters and entries name their book by its printed identifier,
which is that of some content, `source`. -/
inductive Derivation where
  | book (content : Bytes)
  | chapter (source : Bytes) (index : Int) (content : Bytes)
  | tocEntry (source : Bytes) (index : Int)

def bookText (root : Uuid) (content : Bytes) : String := (book root (contentDigest content)).toText

namespace Derivation

variable (root : Uuid)

def id? : Derivation → Except Uuid.ParseError String
  | book content => .ok (bookText root content)
  | chapter source index content =>
    (Uuid.parse (bookText root source)).map fun parent =>
      (Identity.chapter parent index content).toText
  | tocEntry source index =>
    (Uuid.parse (bookText root source)).map fun parent => (Identity.tocEntry parent index).toText

def parent : Derivation → Uuid
  | book _ => root
  | chapter source _ _ | tocEntry source _ => Identity.book root (contentDigest source)

def name : Derivation → String
  | book content => contentDigest content
  | chapter _ index content => chapterName index content
  | tocEntry _ index => tocName index

/-- What is hashed: the sixteen bytes of the parent, then the name. -/
def input (d : Derivation) : Bytes := (d.parent root).bytes ++ Bytes.ofText d.name

/-- The same kind, and the same parent, index and content digest as far as the kind has them. -/
def Same : Derivation → Derivation → Prop
  | book a, book b => contentDigest a = contentDigest b
  | chapter s i a, chapter t j b =>
    bookText root s = bookText root t ∧ i = j ∧ contentDigest a = contentDigest b
  | tocEntry s i, tocEntry t j => bookText root s = bookText root t ∧ i = j
  | _, _ => False

/-- Every derivation gives an identifier: that of its input. -/
theorem id?_eq (d : Derivation) : d.id? root = .ok (Uuid.ofInput (d.input root)).toText := by
  cases d with
  | book content =>
    rw [id?, bookText, Identity.book, Uuid.named_eq_ofInput]
    rfl
  | chapter source index content =>
    rw [id?, bookText, Uuid.parse_toText, Except.map, Identity.chapter, Uuid.named_eq_ofInput]
    rfl
  | tocEntry source index =>
    rw [id?, bookText, Uuid.parse_toText, Except.map, Identity.tocEntry, Uuid.named_eq_ofInput]
    rfl

theorem input_eq_iff_parent_name {d e : Derivation} :
    d.input root = e.input root ↔ d.parent root = e.parent root ∧ d.name = e.name := by
  constructor
  · intro h
    have long : (d.parent root).bytes.length = (e.parent root).bytes.length := by simp
    obtain ⟨parent, name⟩ := List.append_inj h long
    exact ⟨Uuid.bytes_inj parent, Bytes.ofText_inj name⟩
  · rintro ⟨parent, name⟩
    rw [input, input, parent, name]

/-- Books have one printed identifier exactly if they have one identifier. -/
theorem bookText_eq_iff {s t : Bytes} : bookText root s = bookText root t ↔
    Identity.book root (contentDigest s) = Identity.book root (contentDigest t) :=
  ⟨Uuid.toText_inj, congrArg Uuid.toText⟩

/-- Equal inputs come from the same derivation. -/
theorem input_eq_iff {d e : Derivation} : d.input root = e.input root ↔ d.Same root e := by
  rw [input_eq_iff_parent_name]
  cases d with
  | book a =>
    cases e with
    | book b => simp [parent, name, Same]
    | chapter t j b => simp [name, Same, contentDigest_ne_chapterName]
    | tocEntry t j => simp [name, Same, contentDigest_ne_tocName]
  | chapter s i a =>
    cases e with
    | book b => simp [name, Same, (contentDigest_ne_chapterName _ _ _).symm]
    | chapter t j b =>
      simp only [parent, name, Same, bookText_eq_iff]
      refine and_congr_right fun _ => ⟨chapterName_inj, ?_⟩
      rintro ⟨index, digest⟩
      rw [chapterName, chapterName, index, digest]
    | tocEntry t j => simp [name, Same, chapterName_ne_tocName]
  | tocEntry s i =>
    cases e with
    | book b => simp [name, Same, (contentDigest_ne_tocName _ _).symm]
    | chapter t j b => simp [name, Same, (chapterName_ne_tocName _ _ _).symm]
    | tocEntry t j =>
      simp only [parent, name, Same, bookText_eq_iff]
      exact and_congr_right fun _ => ⟨tocName_inj, congrArg tocName⟩

end Derivation

/-- Every derivation gives the identifier of its input, and two have one input only if they are the
same. So two that meet in one identifier are the same, or their inputs are distinct byte strings
with one identifier: a chapter of the same content at another index or in another book, or an
entry of the table of contents, is told apart by what is hashed. -/
theorem same_or_collides (root : Uuid) (d e : Derivation) :
    d.id? root = .ok (Uuid.ofInput (d.input root)).toText ∧
    e.id? root = .ok (Uuid.ofInput (e.input root)).toText ∧
    (d.input root = e.input root ↔ d.Same root e) ∧
    (d.id? root = e.id? root ↔
      d.Same root e ∨
        d.input root ≠ e.input root ∧ Uuid.ofInput (d.input root) = Uuid.ofInput (e.input root)) := by
  refine ⟨d.id?_eq root, e.id?_eq root, Derivation.input_eq_iff root, ?_⟩
  have met : d.id? root = e.id? root ↔
      Uuid.ofInput (d.input root) = Uuid.ofInput (e.input root) := by
    rw [d.id?_eq, e.id?_eq, Except.ok.injEq]
    exact ⟨Uuid.toText_inj, congrArg Uuid.toText⟩
  rw [met, ← Derivation.input_eq_iff]
  by_cases same : d.input root = e.input root
  · simp [same]
  · simp [same]

end Identity
end EpubLibrary
