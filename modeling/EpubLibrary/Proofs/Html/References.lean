import EpubLibrary.Html.Printer
import Mathlib.Tactic.SplitIfs

namespace EpubLibrary.Html

/-- The names that printing writes behind an ampersand. -/
def escapes : List (List Char × Char) :=
  [(['a', 'm', 'p', ';'], '&'), (['l', 't', ';'], '<'), (['g', 't', ';'], '>'),
    (['q', 'u', 'o', 't', ';'], '"')]

/-! ## The table of names -/

/-- Does the entry stand for no null character, and begin with no escape but its own? -/
def isSafe (entry : List Char × List Char) : Bool :=
  entry.2.all (fun c => c.toNat != 0) &&
    escapes.all fun e => !e.1.isPrefixOf entry.1 || entry == (e.1, [e.2])

def isSafeLine (line : List Char) : Bool := ((cutAt ' ' line).map readEntity).all isSafe

/-- Lines and the lists of their characters. -/
inductive Spelled : List String → List (List Char) → Prop where
  | nil : Spelled [] []
  | cons {s : List Char} {lines : List String} {spelled : List (List Char)} :
    Spelled lines spelled → Spelled (String.ofList s :: lines) (s :: spelled)

theorem Spelled.all_toList {p : List Char → Bool} {lines : List String}
    {spelled : List (List Char)} (h : Spelled lines spelled) (hp : spelled.all p = true) :
    ∀ line ∈ lines, p line.toList = true := by
  induction h with
  | nil => exact fun _ h => absurd h List.not_mem_nil
  | cons _ ih =>
    simp only [List.all_cons, Bool.and_eq_true] at hp
    simp only [List.forall_mem_cons, String.toList_ofList]
    exact ⟨hp.1, ih hp.2⟩

-- The lines are checked as lists of characters, because strings evaluate slowly in the kernel.
theorem isSafeLine_of_mem : ∀ line ∈ entityLines, isSafeLine line.toList = true := by
  apply Spelled.all_toList
  · unfold entityLines
    dsimp +zeta only
    repeat apply Spelled.cons
    exact .nil
  · decide +kernel

theorem isSafe_of_mem {entry : List Char × List Char} (h : entry ∈ entities) :
    isSafe entry = true := by
  obtain ⟨line, inLines, inLine⟩ := List.mem_flatMap.1 h
  exact List.all_eq_true.1 (isSafeLine_of_mem line inLines) entry inLine

/-- No other entry begins with an escape. -/
theorem eq_escape_of_begins {entry : List Char × List Char} (h : entry ∈ entities)
    {e : List Char × Char} (he : e ∈ escapes) (begins : e.1 <+: entry.1) : entry = (e.1, [e.2]) := by
  have safe := isSafe_of_mem h
  simp only [isSafe, Bool.and_eq_true] at safe
  simpa [List.isPrefixOf_iff_prefix.2 begins] using List.all_eq_true.1 safe.2 e he

theorem null_not_mem_expansion {entry : List Char × List Char} (h : entry ∈ entities) :
    '\x00' ∉ entry.2 := by
  have safe := isSafe_of_mem h
  simp only [isSafe, Bool.and_eq_true] at safe
  intro null
  simpa using List.all_eq_true.1 safe.1 _ null

theorem mem_entities {line : List Char} {entry : List Char × List Char} (i : Nat)
    (hi : entityLines[i]? = some (String.ofList line))
    (h : entry ∈ (cutAt ' ' line).map readEntity) : entry ∈ entities :=
  List.mem_flatMap.2 ⟨_, List.mem_of_getElem? hi, by rwa [String.toList_ofList]⟩

/-- Every escape is an entry of the table. -/
theorem escape_mem : ∀ e ∈ escapes, (e.1, [e.2]) ∈ entities := by
  simp only [escapes, List.forall_mem_cons, List.not_mem_nil, false_imp_iff, implies_true, and_true]
  refine ⟨?_, ?_, ?_, ?_⟩
  · apply mem_entities 116
    · unfold entityLines; rfl
    · decide +kernel
  · apply mem_entities 223
    · unfold entityLines; rfl
    · decide +kernel
  · apply mem_entities 185
    · unfold entityLines; rfl
    · decide +kernel
  · apply mem_entities 276
    · unfold entityLines; rfl
    · decide +kernel

/-! ## The longest name -/

/-- Folding keeps an entry that is at least as long as each one seen. -/
theorem foldl_longerEntity (entries : List (List Char × List Char))
    (best : Option (List Char × List Char)) (found : List Char × List Char)
    (h : entries.foldl longerEntity best = some found) :
    (found ∈ entries ∨ best = some found) ∧
      (∀ e ∈ entries, e.1.length ≤ found.1.length) ∧
      ∀ b, best = some b → b.1.length ≤ found.1.length := by
  induction entries generalizing best with
  | nil =>
    obtain rfl : best = some found := h
    simp
  | cons e rest ih =>
    obtain ⟨source, longest, above⟩ := ih _ h
    cases best with
    | none =>
      have := above e rfl
      refine ⟨?_, ?_, by simp⟩
      · rcases source with inRest | same
        · exact .inl (List.mem_cons_of_mem _ inRest)
        · obtain rfl := Option.some.inj same
          exact .inl List.mem_cons_self
      · exact List.forall_mem_cons.2 ⟨this, longest⟩
    | some b =>
      simp only [longerEntity] at above source
      split at above <;> rename_i shorter
      · simp only [shorter, if_true] at source
        have := above e rfl
        refine ⟨?_, List.forall_mem_cons.2 ⟨this, longest⟩, ?_⟩
        · rcases source with inRest | same
          · exact .inl (List.mem_cons_of_mem _ inRest)
          · obtain rfl := Option.some.inj same
            exact .inl List.mem_cons_self
        · rintro _ ⟨rfl⟩
          omega
      · simp only [shorter, if_false] at source
        have := above b rfl
        refine ⟨?_, List.forall_mem_cons.2 ⟨by omega, longest⟩, ?_⟩
        · rcases source with inRest | same
          · exact .inl (List.mem_cons_of_mem _ inRest)
          · exact .inr same
        · rintro _ ⟨rfl⟩
          exact this

theorem foldl_longerEntity_isSome (entries : List (List Char × List Char))
    (best : Option (List Char × List Char)) (h : best.isSome = true ∨ entries ≠ []) :
    ∃ found, entries.foldl longerEntity best = some found := by
  induction entries generalizing best with
  | nil => simpa [Option.isSome_iff_exists] using h
  | cons e rest ih =>
    refine ih _ (.inl ?_)
    cases best with
    | none => rfl
    | some b => simp only [longerEntity]; split <;> rfl

theorem mem_of_longestEntity? {s : List Char} {entry : List Char × List Char}
    (h : longestEntity? s = some entry) : entry ∈ entities := by
  obtain ⟨source, -⟩ := foldl_longerEntity _ _ _ h
  rcases source with inside | none
  · exact (List.mem_filter.1 inside).1
  · cases none

/-- An escape is the longest name wherever it stands. -/
theorem longestEntity?_escape {e : List Char × Char} (he : e ∈ escapes) (rest : List Char) :
    longestEntity? (e.1 ++ rest) = some (e.1, [e.2]) := by
  have own : (e.1, [e.2]) ∈ entities.filter fun entry => entry.1.isPrefixOf (e.1 ++ rest) :=
    List.mem_filter.2 ⟨escape_mem e he, List.isPrefixOf_iff_prefix.2 (List.prefix_append _ _)⟩
  obtain ⟨found, hfound⟩ :=
    foldl_longerEntity_isSome _ none (.inr (List.ne_nil_of_mem own))
  obtain ⟨source, longest, -⟩ := foldl_longerEntity _ _ _ hfound
  rcases source with inside | none
  · obtain ⟨inTable, starts⟩ := List.mem_filter.1 inside
    have extends_ : e.1 <+: found.1 :=
      List.prefix_of_prefix_length_le (List.prefix_append _ _)
        (List.isPrefixOf_iff_prefix.1 starts) (longest _ own)
    rw [longestEntity?, hfound, eq_escape_of_begins inTable he extends_]
  · cases none

theorem escape_length_le : ∀ e ∈ escapes, e.1.length ≤ 40 := by decide

theorem escape_head?_ne : ∀ e ∈ escapes, e.1.head?.any (· ≠ '#') = true := by decide

theorem escape_getLast? : ∀ e ∈ escapes, e.1.getLast? = some ';' := by decide

/-- A text that does not begin with a number sign refers by name. -/
theorem reference?_of_name (inAttribute : Bool) {s name expansion : List Char}
    (numberless : s.head?.any (· ≠ '#') = true)
    (longest : longestEntity? (s.take 40) = some (name, expansion))
    (ends : name.getLast? = some ';') :
    reference? inAttribute s = some (expansion, name.length) := by
  unfold reference?
  split
  · simp at numberless
  · simp [longest, ends]

/-- Each name that printing uses stands for its character, whatever follows it: no other name in the
table begins with it. -/
theorem reference?_escape (inAttribute : Bool) {e : List Char × Char} (he : e ∈ escapes)
    (rest : List Char) : reference? inAttribute (e.1 ++ rest) = some ([e.2], e.1.length) := by
  apply reference?_of_name
  · have begins := escape_head?_ne e he
    cases h : e.1 with
    | nil => simp [h] at begins
    | cons c name => simpa [h] using begins
  · rw [List.take_append, List.take_of_length_le (escape_length_le e he)]
    exact longestEntity?_escape he _
  · exact escape_getLast? e he

/-! ## Decoding -/

/-- The rest of a reference is passed over. -/
theorem decodeFrom_append (inAttribute : Bool) (name rest : List Char) :
    decodeFrom inAttribute name.length (name ++ rest) = decodeFrom inAttribute 0 rest := by
  induction name with
  | nil => rfl
  | cons c name ih => exact ih

/-- A way of writing characters: an escape where it is needed, else the character itself. -/
def Escapes (write : Char → List Char) : Prop :=
  ∀ c, (c ≠ '&' ∧ write c = [c]) ∨ ∃ e ∈ escapes, e.2 = c ∧ write c = '&' :: e.1

theorem decodeReferences_flatMap (inAttribute : Bool) {write : Char → List Char}
    (h : Escapes write) (s : List Char) :
    decodeReferences inAttribute (s.flatMap write) = s := by
  induction s with
  | nil => rfl
  | cons c s ih =>
    rw [List.flatMap_cons]
    rcases h c with ⟨plain, writes⟩ | ⟨e, he, rfl, writes⟩
    · rw [writes, decodeReferences, List.singleton_append, decodeFrom, if_neg plain]
      exact congrArg _ ih
    · rw [writes, decodeReferences, List.cons_append, decodeFrom, if_pos rfl,
        reference?_escape inAttribute he]
      simp only [decodeFrom_append, List.cons_append, List.nil_append]
      exact congrArg _ ih

theorem escapes_escapeChar : Escapes escapeChar := by
  intro c
  unfold escapeChar
  split_ifs with amp lt gt
  · exact .inr ⟨_, .head _, amp.symm, rfl⟩
  · exact .inr ⟨_, .tail _ (.head _), lt.symm, rfl⟩
  · exact .inr ⟨_, .tail _ (.tail _ (.head _)), gt.symm, rfl⟩
  · exact .inl ⟨amp, rfl⟩

/-- What is escaped on printing is what reading decodes. -/
theorem decodeReferences_escapeText (inAttribute : Bool) (s : List Char) :
    decodeReferences inAttribute (escapeText s) = s :=
  decodeReferences_flatMap inAttribute escapes_escapeChar s

/-! ## No null character -/

theorem ofNat_ne_null {n : Nat} (h : n.isValidChar) (pos : n ≠ 0) : Char.ofNat n ≠ '\x00' := by
  intro null
  have value : (Char.ofNat n).toNat = n := by
    rw [Char.ofNat, dif_pos h]
    rfl
  rw [null] at value
  exact pos value.symm

theorem numbered_ne_null (n : Nat) : numbered n ≠ '\x00' := by
  unfold numbered
  split_ifs with special low
  · decide
  · have : ∀ k < 32, Char.ofNat (numberedSpecials.getD k (k + 0x80)) ≠ '\x00' := by decide
    have := this (n - 0x80) (by omega)
    rwa [Nat.sub_add_cancel low.1] at this
  · exact ofNat_ne_null (by rw [Nat.isValidChar]; omega) (by omega)

theorem null_not_mem_reference? {inAttribute : Bool} {s expansion : List Char} {n : Nat}
    (h : reference? inAttribute s = some (expansion, n)) : '\x00' ∉ expansion := by
  have single (k : Nat) : '\x00' ∉ [numbered k] := by
    simpa using (numbered_ne_null k).symm
  unfold reference? at h
  split at h
  · split at h <;> dsimp only at h <;> split at h
    · cases h
    · cases h; exact single _
    · cases h
    · cases h; exact single _
  · split at h
    · cases h
    · next name found longest =>
      dsimp only at h
      split at h
      · cases h
      · cases h; exact null_not_mem_expansion (mem_of_longestEntity? longest)

theorem null_not_mem_decodeFrom (inAttribute : Bool) (skip : Nat) {s : List Char}
    (h : '\x00' ∉ s) : '\x00' ∉ decodeFrom inAttribute skip s := by
  fun_induction decodeFrom inAttribute skip s with
  | case1 => exact h
  | case2 skip c s ih => exact ih fun m => h (List.mem_cons_of_mem _ m)
  | case3 s expansion n found ih =>
    rw [List.mem_append, not_or]
    exact ⟨null_not_mem_reference? found, ih fun m => h (List.mem_cons_of_mem _ m)⟩
  | case4 s _ ih => simpa using ih fun m => h (List.mem_cons_of_mem _ m)
  | case5 c s _ ih =>
    rw [List.mem_cons, not_or] at h ⊢
    exact ⟨h.1, ih h.2⟩

/-- No reference stands for the null character. -/
theorem null_not_mem_decodeReferences (inAttribute : Bool) {s : List Char} (h : '\x00' ∉ s) :
    '\x00' ∉ decodeReferences inAttribute s :=
  null_not_mem_decodeFrom inAttribute 0 h

@[simp] theorem null_not_mem_map_showNull (s : List Char) : '\x00' ∉ s.map showNull := by
  rw [List.mem_map]
  rintro ⟨c, -, null⟩
  unfold showNull at null
  split at null
  · cases null
  · contradiction

/-- Text without null characters is shown as it is. -/
theorem map_showNull_eq_self {s : List Char} (h : '\x00' ∉ s) : s.map showNull = s := by
  conv => rhs; rw [← List.map_id s]
  refine List.map_congr_left fun c hc => ?_
  have : c ≠ '\x00' := by
    rintro rfl
    exact h hc
  rw [showNull, if_neg this, id]

end EpubLibrary.Html
