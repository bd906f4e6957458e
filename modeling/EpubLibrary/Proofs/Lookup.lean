import Mathlib.Data.List.Nodup
import Mathlib.Tactic.SplitIfs

namespace EpubLibrary

variable {α β : Type} [BEq α] [LawfulBEq α]

omit [BEq α] [LawfulBEq α] in
theorem eq_singleton_of_nodup {l : List α} {a : α} (once : l.Nodup) (mem : a ∈ l)
    (all : ∀ b ∈ l, b = a) : l = [a] := by
  refine List.perm_singleton.1 ((List.perm_ext_iff_of_nodup once (List.nodup_singleton a)).2 ?_)
  intro b
  rw [List.mem_singleton]
  exact ⟨all b, fun same => same ▸ mem⟩

theorem lookup_cons_eq [DecidableEq α] (a : α × β) (l : List (α × β)) (key : α) :
    List.lookup key (a :: l) = if key = a.1 then some a.2 else l.lookup key := by
  rw [List.lookup_cons]
  split_ifs with same
  · simp [same]
  · simp [beq_eq_false_iff_ne.2 same]

/-- If keys are distinct, the value of one is that beside it, in whatever order they stand. -/
theorem lookup_eq_some_iff_mem {l : List (α × β)} (distinct : (l.map (·.1)).Nodup) {key : α}
    {value : β} : l.lookup key = some value ↔ (key, value) ∈ l := by
  classical
  induction l with
  | nil => simp
  | cons a l ih =>
    rw [List.map_cons, List.nodup_cons] at distinct
    rw [lookup_cons_eq, List.mem_cons]
    split_ifs with same
    · subst same
      have old : (a.1, value) ∉ l := fun m => distinct.1 (List.mem_map_of_mem (f := (·.1)) m)
      simp [old, Prod.ext_iff, eq_comm]
    · simp [ih distinct.2, Prod.ext_iff, same]

/-- Other keys can be left out. -/
theorem lookup_filter {p : α → Bool} {key : α} (holds : p key = true) (l : List (α × β)) :
    (l.filter fun a => p a.1).lookup key = l.lookup key := by
  classical
  induction l with
  | nil => rfl
  | cons a l ih =>
    rw [List.filter_cons, lookup_cons_eq]
    by_cases same : key = a.1
    · rw [← same, if_pos holds, if_pos rfl, lookup_cons_eq, if_pos same]
    · rw [if_neg same]
      split_ifs
      · rw [lookup_cons_eq, if_neg same, ih]
      · exact ih

/-- Values of distinct keys can be looked up in any order. -/
theorem lookup_perm {l m : List (α × β)} (h : l.Perm m) (distinct : (l.map (·.1)).Nodup)
    (key : α) : l.lookup key = m.lookup key := by
  have distinct' : (m.map (·.1)).Nodup := (h.map (·.1)).nodup_iff.1 distinct
  apply Option.ext
  intro value
  rw [lookup_eq_some_iff_mem distinct, lookup_eq_some_iff_mem distinct', h.mem_iff]

end EpubLibrary
