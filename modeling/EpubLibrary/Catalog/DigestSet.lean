namespace EpubLibrary

structure DigestSet where
  toList : List String
  sorted : toList.Pairwise (· < ·)

namespace DigestSet

instance : Membership String DigestSet := ⟨fun s d => d ∈ s.toList⟩

theorem mem_def {d : String} {s : DigestSet} : d ∈ s ↔ d ∈ s.toList := Iff.rfl

instance (d : String) (s : DigestSet) : Decidable (d ∈ s) :=
  inferInstanceAs (Decidable (d ∈ s.toList))

def empty : DigestSet := ⟨[], .nil⟩

/-- Puts a digest in its place unless it is there. -/
def insertSorted (d : String) : List String → List String
  | [] => [d]
  | e :: rest =>
    if d = e then e :: rest
    else if d < e then d :: e :: rest
    else e :: insertSorted d rest

theorem mem_insertSorted {d e : String} {l : List String} :
    e ∈ insertSorted d l ↔ e = d ∨ e ∈ l := by
  induction l with
  | nil => simp [insertSorted]
  | cons a l ih =>
    unfold insertSorted
    split
    · subst d; simp
    · split
      · simp
      · simp only [List.mem_cons, ih]
        constructor <;> rintro (h | h | h) <;> simp [h]

theorem lt_of_ne_of_not_lt {a b : String} (hne : a ≠ b) (hlt : ¬ a < b) : b < a := by
  have hle : b ≤ a := String.not_lt.1 hlt
  rcases Decidable.em (b < a) with h | h
  · exact h
  · exact absurd (String.le_antisymm (String.not_lt.1 h) hle) hne

theorem pairwise_insertSorted {d : String} {l : List String} (h : l.Pairwise (· < ·)) :
    (insertSorted d l).Pairwise (· < ·) := by
  induction l with
  | nil => simp [insertSorted]
  | cons a l ih =>
    obtain ⟨ha, hl⟩ := List.pairwise_cons.1 h
    unfold insertSorted
    split
    · exact h
    · rename_i hne
      split
      · rename_i hlt
        refine List.pairwise_cons.2 ⟨fun e he => ?_, h⟩
        rcases List.mem_cons.1 he with rfl | he
        · exact hlt
        · exact String.lt_trans hlt (ha e he)
      · rename_i hlt
        refine List.pairwise_cons.2 ⟨fun e he => ?_, ih hl⟩
        rcases mem_insertSorted.1 he with rfl | he
        · exact lt_of_ne_of_not_lt hne hlt
        · exact ha e he

def insert (d : String) (s : DigestSet) : DigestSet :=
  ⟨insertSorted d s.toList, pairwise_insertSorted s.sorted⟩

def ofList (l : List String) : DigestSet := l.foldr insert empty

/-- The members of both. -/
def inter (s t : DigestSet) : DigestSet :=
  ⟨s.toList.filter (· ∈ t), s.sorted.filter _⟩

/-- The members of the first that are not in the second. -/
def diff (s t : DigestSet) : DigestSet :=
  ⟨s.toList.filter (· ∉ t), s.sorted.filter _⟩

@[simp] theorem mem_insert {d e : String} {s : DigestSet} : e ∈ s.insert d ↔ e = d ∨ e ∈ s := by
  simp [mem_def, insert, mem_insertSorted]

@[simp] theorem not_mem_empty {d : String} : d ∉ empty := by simp [mem_def, empty]

@[simp] theorem mem_ofList {d : String} {l : List String} : d ∈ ofList l ↔ d ∈ l := by
  induction l with
  | nil => simp [ofList]
  | cons a l ih =>
    rw [List.mem_cons, ← ih]
    exact mem_insert

@[simp] theorem mem_inter {d : String} {s t : DigestSet} : d ∈ s.inter t ↔ d ∈ s ∧ d ∈ t := by
  simp [mem_def, inter]

@[simp] theorem mem_diff {d : String} {s t : DigestSet} : d ∈ s.diff t ↔ d ∈ s ∧ d ∉ t := by
  simp [mem_def, diff]

theorem ext_mem {s t : DigestSet} (h : ∀ d, d ∈ s ↔ d ∈ t) : s = t := by
  obtain ⟨l, hl⟩ := s
  obtain ⟨m, hm⟩ := t
  have distinct {k : List String} (sorted : k.Pairwise (· < ·)) : k.Nodup := by
    refine sorted.imp ?_
    rintro a _ lt rfl
    exact String.lt_irrefl a lt
  have same : l.Perm m := (List.perm_ext_iff_of_nodup (distinct hl) (distinct hm)).2 h
  have eq : l = m :=
    same.eq_of_pairwise (fun a b _ _ ab ba => absurd ba (String.lt_asymm ab)) hl hm
  subst eq
  rfl

end DigestSet
end EpubLibrary
