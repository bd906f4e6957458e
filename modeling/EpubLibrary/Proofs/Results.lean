import Mathlib.Data.List.Forall2

namespace EpubLibrary

variable {ε ε' α β : Type}

theorem bind_ok_iff {x : Except ε α} {f : α → Except ε β} {b : β} :
    (x >>= f) = .ok b ↔ ∃ a, x = .ok a ∧ f a = .ok b := by
  cases x <;> simp [bind, Except.bind]

theorem map_ok_iff {x : Except ε α} {f : α → β} {b : β} :
    (f <$> x) = .ok b ↔ ∃ a, x = .ok a ∧ f a = b := by
  cases x <;> simp [Functor.map, Except.map]

theorem map_error_iff {x : Except ε α} {f : α → β} {e : ε} :
    f <$> x = .error e ↔ x = .error e := by
  cases x <;> simp

theorem mapError_ok_iff {x : Except ε α} {f : ε → ε'} {a : α} :
    x.mapError f = .ok a ↔ x = .ok a := by
  cases x <;> simp [Except.mapError]

theorem toOption_eq_some_iff {x : Except ε α} {a : α} : x.toOption = some a ↔ x = .ok a := by
  cases x <;> simp [Except.toOption]

/-- A list of computations gives results exactly if each gives the result at its position. -/
theorem mapM_ok_iff {f : α → Except ε β} {l : List α} {r : List β} :
    l.mapM f = .ok r ↔ List.Forall₂ (fun a b => f a = .ok b) l r := by
  induction l generalizing r with
  | nil =>
    rw [List.mapM_nil, List.forall₂_nil_left_iff]
    exact ⟨fun h => by cases h; rfl, fun h => by rw [h]; rfl⟩
  | cons a l ih =>
    rw [List.mapM_cons, bind_ok_iff, List.forall₂_cons_left_iff]
    constructor
    · rintro ⟨b, hb, rest⟩
      obtain ⟨bs, hbs, eq⟩ := bind_ok_iff.1 rest
      cases eq
      exact ⟨b, bs, hb, ih.1 hbs, rfl⟩
    · rintro ⟨b, bs, hb, hbs, rfl⟩
      exact ⟨b, hb, bind_ok_iff.2 ⟨bs, ih.2 hbs, rfl⟩⟩

theorem forM_ok_iff {f : α → Except ε Unit} {l : List α} {u : Unit} :
    l.forM f = .ok u ↔ ∀ a ∈ l, f a = .ok () := by
  induction l with
  | nil => simp [List.forM, pure, Except.pure]
  | cons a l ih =>
    rw [List.forM, bind_ok_iff, List.forall_mem_cons, ← ih]
    constructor
    · rintro ⟨⟨⟩, first, rest⟩
      exact ⟨first, rest⟩
    · rintro ⟨first, rest⟩
      exact ⟨(), first, rest⟩

theorem map_eq_of_forall₂ {γ : Type} {R : α → β → Prop} {f : α → γ} {g : β → γ} {l : List α}
    {m : List β} (h : List.Forall₂ R l m) (same : ∀ a b, R a b → f a = g b) :
    l.map f = m.map g := by
  induction h with
  | nil => rfl
  | cons head _ ih => rw [List.map_cons, List.map_cons, same _ _ head, ih]

theorem exists_of_forall₂ {R : α → β → Prop} {l : List α} {m : List β} (h : List.Forall₂ R l m)
    {b : β} (mem : b ∈ m) : ∃ a ∈ l, R a b := by
  induction h with
  | nil => cases mem
  | @cons a _ l _ related _ ih =>
    rcases List.mem_cons.1 mem with rfl | mem
    · exact ⟨a, List.mem_cons_self, related⟩
    · obtain ⟨a, inside, related⟩ := ih mem
      exact ⟨a, List.mem_cons_of_mem _ inside, related⟩

theorem forall₂_trans {γ : Type} {R : α → β → Prop} {S : β → γ → Prop} {l : List α} {m : List β}
    {n : List γ} (h : List.Forall₂ R l m) (h' : List.Forall₂ S m n) :
    List.Forall₂ (fun a c => ∃ b, R a b ∧ S b c) l n := by
  induction h generalizing n with
  | nil => cases h' with | nil => exact .nil
  | cons first _ ih => cases h' with | cons second rest => exact .cons ⟨_, first, second⟩ (ih rest)

theorem mapM_ok_map {f : α → Except ε β} {g : α → β} {l : List α} {r : List β}
    (each : ∀ a b, f a = .ok b → b = g a) (h : l.mapM f = .ok r) : r = l.map g := by
  have pairs := map_eq_of_forall₂ (mapM_ok_iff.1 h) (fun a b ok => (each a b ok).symm)
  rw [pairs]
  exact (List.map_id r).symm

theorem mapM_exists {f : α → Except ε β} {l : List α} (each : ∀ a ∈ l, ∃ b, f a = .ok b) :
    ∃ r, l.mapM f = .ok r := by
  induction l with
  | nil => exact ⟨[], rfl⟩
  | cons a l ih =>
    obtain ⟨b, hb⟩ := each a List.mem_cons_self
    obtain ⟨r, hr⟩ := ih fun a ha => each a (List.mem_cons_of_mem _ ha)
    refine ⟨b :: r, ?_⟩
    rw [List.mapM_cons, hb, hr]
    rfl

/-- An element has the property and none before it has. -/
def IsFirst (p : α → Prop) (l : List α) (a : α) : Prop :=
  ∃ before after, l = before ++ a :: after ∧ p a ∧ ∀ b ∈ before, ¬ p b

theorem isFirst_here {p : α → Prop} {a : α} (l : List α) (h : p a) : IsFirst p (a :: l) a :=
  ⟨[], l, rfl, h, nofun⟩

theorem IsFirst.later {p : α → Prop} {a b : α} {l : List α} (h : IsFirst p l a) (fine : ¬ p b) :
    IsFirst p (b :: l) a := by
  obtain ⟨before, after, rfl, holds, none⟩ := h
  refine ⟨b :: before, after, rfl, holds, ?_⟩
  rw [List.forall_mem_cons]
  exact ⟨fine, none⟩

theorem IsFirst.cases {p : α → Prop} {a b : α} {l : List α} (h : IsFirst p (b :: l) a) :
    (b = a ∧ p a) ∨ (¬ p b ∧ IsFirst p l a) := by
  obtain ⟨before, after, whole, holds, none⟩ := h
  cases before with
  | nil => exact .inl ⟨(List.cons.inj whole).1, holds⟩
  | cons c before =>
    obtain ⟨rfl, rest⟩ := List.cons.inj whole
    rw [List.forall_mem_cons] at none
    exact .inr ⟨none.1, before, after, rest, holds, none.2⟩

theorem IsFirst.holds {p : α → Prop} {a : α} {l : List α} (h : IsFirst p l a) : p a := by
  obtain ⟨_, _, _, holds, _⟩ := h
  exact holds

theorem IsFirst.ne_nil {p : α → Prop} {a : α} {l : List α} (h : IsFirst p l a) : l ≠ [] := by
  obtain ⟨before, after, rfl, _⟩ := h
  simp

theorem exists_isFirst {p : α → Prop} {l : List α} (h : ∃ a ∈ l, p a) : ∃ a, IsFirst p l a := by
  induction l with
  | nil => simp at h
  | cons b l ih =>
    by_cases here : p b
    · exact ⟨b, isFirst_here l here⟩
    · have rest : ∃ a ∈ l, p a := by simpa [here] using h
      obtain ⟨a, first⟩ := ih rest
      exact ⟨a, first.later here⟩

/-- Of the computations that fail in a list, the first tells why all of them do. -/
theorem mapM_error {f : α → Except ε β} {l : List α} {a : α} {e : ε}
    (first : IsFirst (fun a => ∃ e, f a = .error e) l a) (failed : f a = .error e) :
    l.mapM f = .error e := by
  induction l with
  | nil => exact absurd rfl first.ne_nil
  | cons b l ih =>
    rw [List.mapM_cons]
    rcases first.cases with ⟨rfl, _⟩ | ⟨fine, first⟩
    · rw [failed]
      rfl
    · cases result : f b with
      | error e => exact absurd ⟨e, result⟩ fine
      | ok r =>
        rw [ih first]
        rfl

end EpubLibrary
