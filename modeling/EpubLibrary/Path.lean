namespace EpubLibrary

/-- A component of a path. -/
abbrev Component := List Char

/-- A path: the slashes of its root and the components below it. -/
structure Path where
  slashes : Nat
  parts : List Component
  deriving DecidableEq

namespace Path

/-- The components of a text: the pieces between slashes, empty ones too. -/
def split : List Char → List Component
  | [] => [[]]
  | c :: s =>
    if c = '/' then [] :: split s
    else
      match split s with
      | [] => [[c]]
      | part :: parts => (c :: part) :: parts

/-- The components with a slash between each two. -/
def joinParts : List Component → List Char
  | [] => []
  | [part] => part
  | part :: parts => part ++ '/' :: joinParts parts

/-- Does the component say anything? Empty ones and single dots do not. -/
def isStep (part : Component) : Bool := part ≠ [] && part ≠ ['.']

/-- The slashes of the root: two stay two, and more are one. -/
def rootOf (s : List Char) : Nat :=
  let n := (s.takeWhile (· = '/')).length
  if n ≤ 2 then n else 1

/-- Reads a path; every text is one. -/
def ofText (s : List Char) : Path := ⟨rootOf s, (split s).filter isStep⟩

/-- The bytes that a text takes. -/
def byteCount (s : List Char) : Nat := s.foldl (fun n c => n + c.utf8Size) 0

/-- Has a component more bytes than the name of a node can have? -/
def isLong (part : Component) : Bool := 255 < byteCount part

/-- Writes a path; the path of nothing is a dot. -/
def toText (p : Path) : List Char :=
  match List.replicate p.slashes '/' ++ joinParts p.parts with
  | [] => ['.']
  | s => s

/-- The bytes of the written path. -/
def size (p : Path) : Nat := byteCount p.toText

/-- The component that goes up. -/
def up : Component := ['.', '.']

/-- Puts a component on a stack of components, whose top is its head. Going up takes off the top,
unless that goes up itself; from the root it leads nowhere. -/
def push (rooted : Bool) (stack : List Component) (part : Component) : List Component :=
  if part ≠ up then part :: stack
  else
    match stack with
    | [] => if rooted then [] else [up]
    | top :: rest => if top = up then up :: top :: rest else rest

/-- The components after every step up is taken. -/
def climb (rooted : Bool) (parts : List Component) : List Component :=
  (parts.foldl (push rooted) []).reverse

/-- The path with its steps up taken. -/
def normal (p : Path) : Path := ⟨p.slashes, climb (p.slashes ≠ 0) p.parts⟩

/-- The normal form of a written path. -/
def normalText (s : List Char) : List Char := (ofText s).normal.toText

/-- The last component, or nothing. -/
def name (p : Path) : Component := p.parts.getLast?.getD []

/-- What follows the last dot of a name, with the dot. -/
def suffixOf (name : Component) : Component :=
  let after := (name.reverse.takeWhile (· ≠ '.')).reverse
  let before := name.length - after.length - 1
  if after = [] ∨ name.length ≤ after.length ∨ before = 0 then [] else '.' :: after

theorem suffixOf_eq_iff {name ending : Component} (some : ending ≠ []) (dotless : '.' ∉ ending) :
    suffixOf name = '.' :: ending ↔ ∃ stem, stem ≠ [] ∧ name = stem ++ '.' :: ending := by
  constructor
  · intro h
    have whole := List.takeWhile_append_dropWhile (p := (· ≠ '.')) (l := name.reverse)
    simp only [suffixOf] at h
    split at h
    · cases h
    · rename_i fits
      rw [not_or, not_or] at fits
      obtain ⟨_, longer, before⟩ := fits
      rw [(List.cons.inj h).2] at longer before
      rw [← List.reverse_eq_iff.2 (List.cons.inj h).2.symm] at whole
      cases rest : name.reverse.dropWhile (· ≠ '.') with
      | nil =>
        have short := congrArg List.length whole
        rw [rest, List.append_nil, List.length_reverse, List.length_reverse] at short
        omega
      | cons c stem =>
        have dot : c = '.' := by
          have first := List.head?_dropWhile_not (· ≠ '.') name.reverse
          rw [rest] at first
          simpa using first
        have eq : name = stem.reverse ++ '.' :: ending := by
          rw [← List.reverse_reverse name, ← whole, rest, dot]
          simp
        refine ⟨stem.reverse, ?_, eq⟩
        rintro none
        rw [eq, none] at before
        simp at before
  · rintro ⟨stem, some', rfl⟩
    have dots : ∀ c ∈ ending.reverse, decide (c ≠ '.') = true := by
      intro c mem
      rw [decide_eq_true_eq]
      rintro rfl
      exact dotless (List.mem_reverse.1 mem)
    have after : ((stem ++ '.' :: ending).reverse.takeWhile (· ≠ '.')).reverse = ending := by
      rw [List.reverse_append, List.reverse_cons, List.append_assoc,
        List.takeWhile_append_of_pos dots]
      simp
    have long := List.length_pos_iff.2 some'
    simp only [suffixOf, after]
    rw [if_neg]
    rw [List.length_append, List.length_cons, not_or, not_or]
    exact ⟨some, by omega, by omega⟩

theorem suffixOf_eq_nil_or (name : Component) :
    suffixOf name = [] ∨ ∃ ending, suffixOf name = '.' :: ending := by
  simp only [suffixOf]
  split
  · exact .inl rfl
  · exact .inr ⟨_, rfl⟩

/-- The suffix of the last component: empty if its last dot is its first or last character. -/
def suffix (p : Path) : Component := suffixOf p.name

/-- The path of a text below a path; a text with a root stands for itself. -/
def join (p : Path) (s : List Char) : Path :=
  let q := ofText s
  if q.slashes ≠ 0 then q else ⟨p.slashes, p.parts ++ q.parts⟩

/-- `join` with a text. -/
def child (p : Path) (s : String) : Path := p.join s.toList

/-- The path of a string. -/
def ofString (s : String) : Path := ofText s.toList

/-- The written form as a string. -/
def text (p : Path) : String := String.ofList p.toText

/-- The written path of `s` seen from the directory `base`. -/
def joinText (base s : List Char) : List Char :=
  if s.head? = some '/' then s
  else if base = [] ∨ base.getLast? = some '/' then base ++ s
  else base ++ '/' :: s

/-- The directory of a written path: what stands before its last slash. -/
def parentText (s : List Char) : List Char :=
  let head := (s.reverse.dropWhile (· ≠ '/')).reverse
  if head.all (· = '/') then head else (head.reverse.dropWhile (· = '/')).reverse

end Path
end EpubLibrary
