namespace EpubLibrary.Text

/-- Is the code point in one of the closed ranges? -/
def inRanges (ranges : List (Nat × Nat)) (n : Nat) : Bool :=
  ranges.any fun r => r.1 ≤ n && n ≤ r.2

/-- Closed ranges of the blank code points, ascending and apart. -/
def blankRanges : List (Nat × Nat) :=
  [(0x09, 0x0D), (0x1C, 0x20), (0x85, 0x85), (0xA0, 0xA0), (0x1680, 0x1680), (0x2000, 0x200A),
   (0x2028, 0x2029), (0x202F, 0x202F), (0x205F, 0x205F), (0x3000, 0x3000)]

def isBlank (c : Char) : Bool := inRanges blankRanges c.toNat

/-- Takes characters of a class off the end. -/
def dropEndWhile (p : Char → Bool) (s : List Char) : List Char :=
  (s.reverse.dropWhile p).reverse

/-- Takes characters of a class off both ends. -/
def stripWhile (p : Char → Bool) (s : List Char) : List Char := dropEndWhile p (s.dropWhile p)

/-- The text without the blanks at its ends. -/
def strip (s : List Char) : List Char := stripWhile isBlank s

/-- `strip` on strings. -/
def stripText (s : String) : String := String.ofList (strip s.toList)

/-- Does the text hold blanks only? -/
def allBlank (s : List Char) : Bool := s.all isBlank

theorem dropWhile_dropWhile (p : Char → Bool) (s : List Char) :
    (s.dropWhile p).dropWhile p = s.dropWhile p := by
  induction s with
  | nil => rfl
  | cons c s ih => by_cases h : p c = true <;> simp_all

/-- What stands at the start of a text that begins with no such character begins with none. -/
theorem dropWhile_of_prefix {p : Char → Bool} {s t : List Char} (start : t <+: s)
    (kept : s.dropWhile p = s) : t.dropWhile p = t := by
  cases t with
  | nil => rfl
  | cons c t =>
    obtain ⟨rest, rfl⟩ := start
    by_cases h : p c = true
    · have longer := (List.dropWhile_suffix (l := t ++ rest) p).length_le
      rw [List.cons_append, List.dropWhile_cons_of_pos h] at kept
      rw [kept, List.length_cons] at longer
      omega
    · rw [List.dropWhile_cons_of_neg h]

theorem prefix_dropEndWhile (p : Char → Bool) (s : List Char) : dropEndWhile p s <+: s := by
  rw [dropEndWhile, ← List.reverse_suffix, List.reverse_reverse]
  exact List.dropWhile_suffix p

/-- A text without blanks at its ends has none to strip. -/
theorem strip_strip (s : List Char) : strip (strip s) = strip s := by
  have start : (strip s).dropWhile isBlank = strip s :=
    dropWhile_of_prefix (prefix_dropEndWhile isBlank _) (dropWhile_dropWhile isBlank s)
  have stop : dropEndWhile isBlank (strip s) = strip s := by
    simp only [strip, stripWhile, dropEndWhile, List.reverse_reverse, dropWhile_dropWhile]
  calc strip (strip s) = dropEndWhile isBlank ((strip s).dropWhile isBlank) := rfl
    _ = strip s := by rw [start, stop]

/-- What is left of a text without the blanks at its ends. -/
structure Stripped (s t : List Char) : Prop where
  within : ∃ front back, s = front ++ t ++ back ∧ allBlank front = true ∧ allBlank back = true
  start : ∀ c ∈ t.head?, isBlank c = false
  stop : ∀ c ∈ t.getLast?, isBlank c = false

theorem dropWhile_append_of_all {p : Char → Bool} {front s : List Char} (all : front.all p = true)
    (start : ∀ c ∈ s.head?, p c = false) : (front ++ s).dropWhile p = s := by
  rw [List.dropWhile_append_of_pos (List.all_eq_true.1 all)]
  cases s with
  | nil => rfl
  | cons c s =>
    have kept : p c = false := start c rfl
    rw [List.dropWhile_cons_of_neg (by simp [kept])]

theorem of_mem_head?_dropWhile {p : Char → Bool} {s : List Char} {c : Char}
    (h : c ∈ (s.dropWhile p).head?) : p c = false := by
  have first := List.head?_dropWhile_not p s
  rwa [Option.mem_def.1 h] at first

theorem dropEndWhile_append (p : Char → Bool) (s : List Char) :
    ∃ back, dropEndWhile p s ++ back = s ∧ back.all p = true := by
  refine ⟨(s.reverse.takeWhile p).reverse, ?_, ?_⟩
  · rw [dropEndWhile, ← List.reverse_append, List.takeWhile_append_dropWhile, List.reverse_reverse]
  · rw [List.all_reverse, List.all_takeWhile]

theorem strip_eq_iff {s t : List Char} : strip s = t ↔ Stripped s t := by
  constructor
  · rintro rfl
    obtain ⟨back, whole, blank⟩ := dropEndWhile_append isBlank (s.dropWhile isBlank)
    refine ⟨⟨s.takeWhile isBlank, back, ?_, List.all_takeWhile, blank⟩, ?_, ?_⟩
    · rw [List.append_assoc, strip, stripWhile, whole, List.takeWhile_append_dropWhile]
    · intro c first
      refine of_mem_head?_dropWhile (s := s) ?_
      rw [← whole, List.head?_append, ← stripWhile, ← strip, Option.mem_def.1 first]
      rfl
    · intro c last
      rw [strip, stripWhile, dropEndWhile, List.getLast?_reverse] at last
      exact of_mem_head?_dropWhile last
  · rintro ⟨⟨front, back, rfl, blank, blank'⟩, start, stop⟩
    rw [strip, stripWhile, dropEndWhile, List.append_assoc]
    by_cases none : t = []
    · subst none
      rw [List.nil_append, List.dropWhile_append_of_pos (List.all_eq_true.1 blank)]
      have nothing := dropWhile_append_of_all (s := []) blank' nofun
      rw [List.append_nil] at nothing
      rw [nothing]
      rfl
    · have start' : ∀ c ∈ (t ++ back).head?, isBlank c = false := by
        cases t with
        | nil => exact absurd rfl none
        | cons c t => exact start
      have stop' : ∀ c ∈ t.reverse.head?, isBlank c = false := by
        rwa [List.head?_reverse]
      rw [dropWhile_append_of_all blank start', List.reverse_append,
        dropWhile_append_of_all (by rwa [List.all_reverse]) stop', List.reverse_reverse]

theorem stripText_eq_iff {s t : String} : stripText s = t ↔ Stripped s.toList t.toList := by
  rw [← strip_eq_iff, stripText, ← String.toList_inj, String.toList_ofList]

theorem stripText_stripText (s : String) : stripText (stripText s) = stripText s := by
  rw [stripText, stripText, String.toList_ofList, strip_strip]

end EpubLibrary.Text
