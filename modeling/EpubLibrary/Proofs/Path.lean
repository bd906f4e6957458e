import EpubLibrary.Path

namespace EpubLibrary.Path

/-! ## Components -/

theorem split_eq (s : List Char) : split s = s.splitOn '/' := by
  induction s with
  | nil => rfl
  | cons c s ih =>
    have pieces := List.splitOn_ne_nil '/' s
    rw [split, ih, List.splitOn_cons_eq_if_modifyHead]
    simp only [beq_iff_eq]
    split
    · rfl
    · split
      · contradiction
      · rename_i part parts whole
        rw [whole, List.modifyHead_cons]

theorem joinParts_eq (parts : List Component) : joinParts parts = ['/'].intercalate parts := by
  induction parts with
  | nil => rfl
  | cons part parts ih =>
    cases parts with
    | nil => rw [joinParts, List.intercalate_singleton]
    | cons next parts =>
      rw [joinParts, ih, List.intercalate_cons_cons, List.append_assoc, List.singleton_append]
      exact nofun

theorem split_ne_nil (s : List Char) : split s ≠ [] := by
  rw [split_eq]
  exact List.splitOn_ne_nil '/' s

/-- A path is its components with slashes between them. -/
theorem joinParts_split (s : List Char) : joinParts (split s) = s := by
  rw [joinParts_eq, split_eq, List.intercalate_splitOn]

theorem split_slash (s t : List Char) : split (s ++ '/' :: t) = split s ++ split t := by
  rw [split_eq, split_eq, split_eq, List.splitOn_append_cons_self]

theorem split_joinParts {parts : List Component} (some : parts ≠ [])
    (apart : ∀ part ∈ parts, '/' ∉ part) : split (joinParts parts) = parts := by
  rw [joinParts_eq, split_eq, List.splitOn_intercalate '/' apart some]

/-- No component holds a slash. -/
theorem slash_not_mem_of_mem_split {s : List Char} {part : Component} (h : part ∈ split s) :
    '/' ∉ part := by
  induction s generalizing part with
  | nil =>
    rw [split, List.mem_singleton] at h
    rw [h]
    exact List.not_mem_nil
  | cons c s ih =>
    rw [split] at h
    split at h
    · rcases List.mem_cons.1 h with rfl | h
      · exact List.not_mem_nil
      · exact ih h
    · rename_i other
      split at h
      · rename_i none
        exact absurd none (split_ne_nil s)
      · rename_i first parts whole
        rcases List.mem_cons.1 h with rfl | h
        · have inner : '/' ∉ first := ih (by rw [whole]; exact List.mem_cons_self)
          rw [List.mem_cons, not_or]
          exact ⟨Ne.symm other, inner⟩
        · exact ih (by rw [whole]; exact List.mem_cons_of_mem _ h)

/-- A path ends in another from a slash on if its components end in those of the other and there is
at least one more. -/
theorem slash_suffix_iff {s t : List Char} :
    '/' :: t <:+ s ↔ split t <:+ split s ∧ split t ≠ split s := by
  constructor
  · rintro ⟨front, rfl⟩
    rw [split_slash]
    refine ⟨List.suffix_append _ _, fun same => split_ne_nil front ?_⟩
    exact List.append_left_eq_self.1 same.symm
  · rintro ⟨⟨front, whole⟩, proper⟩
    have more : front ≠ [] := by
      rintro rfl
      exact proper whole
    have front_apart : ∀ part ∈ front, '/' ∉ part := by
      intro part mem
      refine slash_not_mem_of_mem_split (s := s) ?_
      rw [← whole]
      exact List.mem_append_left _ mem
    refine ⟨joinParts front, ?_⟩
    calc joinParts front ++ '/' :: t
        = joinParts (split (joinParts front ++ '/' :: t)) := (joinParts_split _).symm
      _ = joinParts (front ++ split t) := by rw [split_slash, split_joinParts more front_apart]
      _ = s := by rw [whole, joinParts_split]

/-! ## Steps up -/

/-- Steps up lie below all others on a stack, and none lies on one that starts at the root. -/
structure Settled (rooted : Bool) (stack : List Component) : Prop where
  below : stack.Pairwise fun upper lower => upper = up → lower = up
  rooted : rooted = true → up ∉ stack

theorem settled_nil (rooted : Bool) : Settled rooted [] :=
  ⟨List.Pairwise.nil, fun _ => List.not_mem_nil⟩

theorem Settled.push {rooted : Bool} {stack : List Component} (h : Settled rooted stack)
    (part : Component) : Settled rooted (push rooted stack part) := by
  unfold Path.push
  split
  · rename_i down
    refine ⟨List.pairwise_cons.2 ⟨fun _ _ same => absurd same down, h.below⟩, fun root => ?_⟩
    rw [List.mem_cons, not_or]
    exact ⟨Ne.symm down, h.rooted root⟩
  · cases stack with
    | nil =>
      cases rooted with
      | true => exact settled_nil true
      | false => exact ⟨List.pairwise_singleton _ _, nofun⟩
    | cons top rest =>
      have lower := List.pairwise_cons.1 h.below
      dsimp only
      split
      · rename_i same
        subst same
        refine ⟨List.pairwise_cons.2 ⟨fun part mem _ => ?_, h.below⟩, fun root => ?_⟩
        · rcases List.mem_cons.1 mem with rfl | mem
          · rfl
          · exact lower.1 part mem rfl
        · exact absurd List.mem_cons_self (h.rooted root)
      · exact ⟨lower.2, fun root mem => h.rooted root (List.mem_cons_of_mem _ mem)⟩

theorem Settled.foldl {rooted : Bool} (parts : List Component) {stack : List Component}
    (h : Settled rooted stack) : Settled rooted (parts.foldl (Path.push rooted) stack) := by
  induction parts generalizing stack with
  | nil => exact h
  | cons part parts ih => exact ih (h.push part)

/-- A component on top of a settled stack got there as it is. -/
theorem push_of_settled {rooted : Bool} {stack : List Component} {part : Component}
    (h : Settled rooted (part :: stack)) : push rooted stack part = part :: stack := by
  unfold push
  split
  · rfl
  · rename_i same
    rw [ne_eq, Decidable.not_not] at same
    subst same
    cases stack with
    | nil =>
      cases rooted with
      | true => exact absurd List.mem_cons_self (h.rooted rfl)
      | false => rfl
    | cons top rest =>
      have top_up : top = up := (List.pairwise_cons.1 h.below).1 top List.mem_cons_self rfl
      dsimp only
      rw [if_pos top_up]

theorem foldl_push_of_settled {rooted : Bool} (parts : List Component) {stack : List Component}
    (h : Settled rooted (parts.reverse ++ stack)) :
    parts.foldl (push rooted) stack = parts.reverse ++ stack := by
  induction parts generalizing stack with
  | nil => rfl
  | cons part parts ih =>
    rw [List.reverse_cons, List.append_assoc, List.singleton_append] at h
    have inner : Settled rooted (part :: stack) :=
      ⟨(List.pairwise_append.1 h.below).2.1,
        fun root mem => h.rooted root (List.mem_append_right _ mem)⟩
    rw [List.foldl_cons, push_of_settled inner, ih h, List.reverse_cons, List.append_assoc,
      List.singleton_append]

/-- Climbing leaves steps up in front only, where climbing again leaves them. -/
theorem climb_climb (rooted : Bool) (parts : List Component) :
    climb rooted (climb rooted parts) = climb rooted parts := by
  have settled := (settled_nil rooted).foldl parts
  rw [climb, climb, foldl_push_of_settled, List.append_nil, List.reverse_reverse]
  rw [List.reverse_reverse, List.append_nil]
  exact settled

theorem mem_push {rooted : Bool} {stack : List Component} {part other : Component}
    (h : other ∈ push rooted stack part) : other = part ∨ other ∈ stack := by
  unfold push at h
  split at h
  · exact List.mem_cons.1 h
  · rename_i same
    rw [ne_eq, Decidable.not_not] at same
    cases stack with
    | nil =>
      cases rooted with
      | true => cases h
      | false => exact .inl (by rw [List.mem_singleton.1 h, same])
    | cons top rest =>
      dsimp only at h
      split at h
      · rw [same]
        exact List.mem_cons.1 h
      · exact .inr (List.mem_cons_of_mem _ h)

theorem mem_climb {rooted : Bool} {parts : List Component} {part : Component}
    (h : part ∈ climb rooted parts) : part ∈ parts := by
  have from_stack : ∀ (parts stack : List Component),
      part ∈ parts.foldl (push rooted) stack → part ∈ parts ∨ part ∈ stack := by
    intro parts
    induction parts with
    | nil => exact fun _ mem => .inr mem
    | cons first parts ih =>
      intro stack mem
      rcases ih _ mem with mem | mem
      · exact .inl (List.mem_cons_of_mem _ mem)
      · rcases mem_push mem with rfl | mem
        · exact .inl List.mem_cons_self
        · exact .inr mem
  rw [climb, List.mem_reverse] at h
  exact (from_stack parts [] h).resolve_right List.not_mem_nil

/-! ## Written forms -/

/-- What `ofText` reads: a root of at most two slashes and components that say something. -/
structure Plain (p : Path) : Prop where
  slashes : p.slashes ≤ 2
  steps : ∀ part ∈ p.parts, isStep part = true
  apart : ∀ part ∈ p.parts, '/' ∉ part

theorem rootOf_le (s : List Char) : rootOf s ≤ 2 := by
  unfold rootOf
  dsimp only
  split <;> omega

theorem plain_ofText (s : List Char) : (ofText s).Plain where
  slashes := rootOf_le s
  steps _ mem := (List.mem_filter.1 mem).2
  apart _ mem := slash_not_mem_of_mem_split (List.mem_filter.1 mem).1

theorem Plain.normal {p : Path} (h : p.Plain) : p.normal.Plain where
  slashes := h.slashes
  steps _ mem := h.steps _ (mem_climb mem)
  apart _ mem := h.apart _ (mem_climb mem)

/-- The normal form of a path is its own normal form. -/
theorem normal_normal (p : Path) : p.normal.normal = p.normal :=
  congrArg (Path.mk p.slashes) (climb_climb _ p.parts)

theorem isStep_iff {part : Component} : isStep part = true ↔ part ≠ [] ∧ part ≠ ['.'] := by
  simp [isStep]

theorem joinParts_eq_nil {parts : List Component} (steps : ∀ part ∈ parts, isStep part = true)
    (h : joinParts parts = []) : parts = [] := by
  cases parts with
  | nil => rfl
  | cons part parts =>
    refine absurd ?_ (isStep_iff.1 (steps part List.mem_cons_self)).1
    cases parts with
    | nil => exact h
    | cons next parts => exact (List.append_eq_nil_iff.1 h).1

/-- Joined components do not start with a slash. -/
theorem takeWhile_joinParts {parts : List Component} (steps : ∀ part ∈ parts, isStep part = true)
    (apart : ∀ part ∈ parts, '/' ∉ part) : (joinParts parts).takeWhile (· = '/') = [] := by
  cases parts with
  | nil => rfl
  | cons part parts =>
    have filled := (isStep_iff.1 (steps part List.mem_cons_self)).1
    have own := apart part List.mem_cons_self
    cases part with
    | nil => contradiction
    | cons c part =>
      have other : c ≠ '/' := fun same => own (by rw [same]; exact List.mem_cons_self)
      cases parts with
      | nil => exact List.takeWhile_cons_of_neg (by simpa using other)
      | cons next parts => exact List.takeWhile_cons_of_neg (by simpa using other)

theorem takeWhile_slashes (n : Nat) {s : List Char} (h : s.takeWhile (· = '/') = []) :
    (List.replicate n '/' ++ s).takeWhile (· = '/') = List.replicate n '/' := by
  rw [List.takeWhile_append_of_pos, h, List.append_nil]
  intro c mem
  rw [List.eq_of_mem_replicate mem]
  rfl

theorem filter_split_slashes (n : Nat) (s : List Char) :
    (split (List.replicate n '/' ++ s)).filter isStep = (split s).filter isStep := by
  induction n with
  | zero => rfl
  | succ n ih =>
    rw [List.replicate_succ, List.cons_append, split, if_pos rfl,
      List.filter_cons_of_neg (by decide), ih]

theorem filter_split_joinParts {parts : List Component}
    (steps : ∀ part ∈ parts, isStep part = true) (apart : ∀ part ∈ parts, '/' ∉ part) :
    (split (joinParts parts)).filter isStep = parts := by
  cases parts with
  | nil => rfl
  | cons part parts =>
    rw [split_joinParts (List.cons_ne_nil part parts) apart, List.filter_eq_self.2 steps]

/-- What is written is what is read. -/
theorem ofText_toText {p : Path} (h : p.Plain) : ofText p.toText = p := by
  have joined := takeWhile_joinParts h.steps h.apart
  unfold toText
  split
  · rename_i blank
    obtain ⟨no_slashes, no_parts⟩ := List.append_eq_nil_iff.1 blank
    have slashes : p.slashes = 0 := (List.replicate_eq_nil_iff _).1 no_slashes
    have parts : p.parts = [] := joinParts_eq_nil h.steps no_parts
    cases p
    subst slashes parts
    rfl
  · have root : rootOf (List.replicate p.slashes '/' ++ joinParts p.parts) = p.slashes := by
      rw [rootOf, takeWhile_slashes _ joined, List.length_replicate]
      exact if_pos h.slashes
    rw [ofText, root, filter_split_slashes, filter_split_joinParts h.steps h.apart]

/-- The normal form of a written path is its own normal form. -/
theorem normalText_normalText (s : List Char) : normalText (normalText s) = normalText s := by
  rw [normalText, normalText, ofText_toText (plain_ofText s).normal, normal_normal]

theorem toText_ne_nil (p : Path) : p.toText ≠ [] := by
  unfold toText
  split
  · exact nofun
  · assumption

/-- The normal form of a path that does not start at the root has no slash to drop. -/
theorem normalText_relative {s : List Char} (h : s.head? ≠ some '/') :
    (normalText s).dropWhile (· = '/') = normalText s := by
  have root : (ofText s).slashes = 0 := by
    cases s with
    | nil => rfl
    | cons c s =>
      have other : c ≠ '/' := fun same => h (by rw [same]; rfl)
      rw [ofText, rootOf, List.takeWhile_cons_of_neg (by simpa using other)]
      rfl
  have plain := (plain_ofText s).normal
  have joined := takeWhile_joinParts plain.steps plain.apart
  have slashes : (ofText s).normal.slashes = 0 := root
  have start : (normalText s).takeWhile (· = '/') = [] := by
    rw [normalText, toText, slashes, List.replicate_zero, List.nil_append]
    split
    · rfl
    · exact joined
  have whole := List.takeWhile_append_dropWhile (p := (· = '/')) (l := normalText s)
  rw [start, List.nil_append] at whole
  exact whole

end EpubLibrary.Path
