import EpubLibrary.Proofs.Lookup
import EpubLibrary.Settings.EnvFile

namespace EpubLibrary.EnvFile

def lacks (env : Environment) (name : String) : Bool := (env.get? name).isNone

def missing (env : Environment) (bs : Bindings) : Bindings := bs.filter fun b => lacks env b.1

/-- The variables that bindings give to an environment: those it lacks and that have a value. -/
def added (env : Environment) (bs : Bindings) : List (String × String) :=
  (missing env bs).filterMap fun b => b.2.map (b.1, ·)

def loaded (env : Environment) (bs : Bindings) : Environment :=
  { env with bindings := env.bindings ++ added env bs }

/-- The value of a variable: the environment's, even if it is empty, and else that of a file. -/
def valueOf (env : Environment) (file : Bindings) (name : String) : Option String :=
  (env.get? name).or (file.lookup name).join

def Settable (name value : String) : Prop :=
  ('\x00' ∉ name.toList ∧ '\x00' ∉ value.toList) ∧ '=' ∉ name.toList

instance (name value : String) : Decidable (Settable name value) :=
  inferInstanceAs (Decidable (_ ∧ _))

variable {env : Environment} {bs : Bindings} {name value : String}

theorem get?_define (env : Environment) (name value key : String) :
    (env.define name value).get? key =
      (env.get? key).or (if key = name then some value else none) := by
  rw [Environment.get?, Environment.define, List.lookup_append, lookup_cons_eq, List.lookup_nil]
  rfl

theorem lacks_define {key : String} (other : key ≠ name) :
    lacks (env.define name value) key = lacks env key := by
  rw [lacks, get?_define, if_neg other, Option.or_none, lacks]

theorem missing_cons_of_known {b : String × Option String} (known : lacks env b.1 = false) :
    missing env (b :: bs) = missing env bs :=
  List.filter_cons_of_neg (by simp [known])

theorem missing_cons_of_new {b : String × Option String} (new : lacks env b.1 = true) :
    missing env (b :: bs) = b :: missing env bs := by
  unfold missing
  rw [List.filter_cons, if_pos new]

theorem added_cons_of_known {b : String × Option String} (known : lacks env b.1 = false) :
    added env (b :: bs) = added env bs := by
  rw [added, missing_cons_of_known known, added]

theorem added_cons_none (new : lacks env name = true) :
    added env ((name, none) :: bs) = added env bs := by
  rw [added, missing_cons_of_new new]
  rfl

theorem added_cons_some (new : lacks env name = true) :
    added env ((name, some value) :: bs) = (name, value) :: added env bs := by
  rw [added, missing_cons_of_new new]
  rfl

theorem added_define (absent : name ∉ bs.map (·.1)) :
    added (env.define name value) bs = added env bs := by
  have same : ∀ b ∈ bs, lacks (env.define name value) b.1 = lacks env b.1 := by
    intro b mem
    refine lacks_define fun eq => absent ?_
    rw [← eq]
    exact List.mem_map_of_mem mem
  rw [added, missing, List.filter_congr same, added, missing]

theorem apply_cons_of_known {b : String × Option String} (known : lacks env b.1 = false) :
    apply env (b :: bs) = apply env bs := by
  obtain ⟨name, value⟩ := b
  rw [apply]
  intro text absent
  simp [lacks, absent] at known

theorem apply_cons_none : apply env ((name, none) :: bs) = apply env bs := by
  rw [apply]
  exact nofun

theorem apply_cons_some (new : lacks env name = true) {e : Environment} :
    apply env ((name, some value) :: bs) = .ok e ↔
      Settable name value ∧ apply (env.define name value) bs = .ok e := by
  have absent : env.get? name = none := by simpa [lacks] using new
  simp only [apply, absent, Bool.or_eq_true, List.contains_iff_mem, Settable]
  split
  · rename_i null
    simp [← not_or, null]
  · rename_i whole
    split
    · rename_i equals
      simp [equals]
    · rename_i plain
      simp [← not_or, whole, plain]

/-- An environment is given the variables that it lacks if the system can hold each of them. -/
theorem apply_eq_ok_iff (distinct : (bs.map (·.1)).Nodup) {e : Environment} :
    apply env bs = .ok e ↔ (∀ b ∈ added env bs, Settable b.1 b.2) ∧ e = loaded env bs := by
  induction bs generalizing env with
  | nil => simp [apply, added, missing, loaded, eq_comm]
  | cons b bs ih =>
    obtain ⟨name, value⟩ := b
    obtain ⟨absent, rest⟩ := List.nodup_cons.1 distinct
    cases new : lacks env name with
    | false =>
      rw [apply_cons_of_known new, ih rest, loaded, loaded, added_cons_of_known new]
    | true =>
      cases value with
      | none => rw [apply_cons_none, ih rest, loaded, loaded, added_cons_none new]
      | some value =>
        -- The names to come are others, so the new variable is none of theirs.
        have more : loaded (env.define name value) bs = loaded env ((name, some value) :: bs) := by
          rw [loaded, added_define absent, loaded, added_cons_some new]
          simp [Environment.define]
        rw [apply_cons_some new, ih rest, added_define absent, more, added_cons_some new,
          List.forall_mem_cons, and_assoc]

theorem lookup_valued (distinct : (bs.map (·.1)).Nodup) (key : String) :
    (bs.filterMap fun b => b.2.map (b.1, ·)).lookup key = (bs.lookup key).join := by
  induction bs with
  | nil => rfl
  | cons b bs ih =>
    obtain ⟨name, value⟩ := b
    obtain ⟨absent, rest⟩ := List.nodup_cons.1 distinct
    rw [List.filterMap_cons, lookup_cons_eq]
    by_cases same : key = name
    · subst same
      have gone : bs.lookup key = none := by
        rw [List.lookup_eq_none_iff]
        intro b mem
        rw [bne_iff_ne]
        intro same
        exact absent (List.mem_map.2 ⟨b, mem, same.symm⟩)
      cases value with
      | none =>
        rw [if_pos rfl]
        exact (ih rest).trans (by rw [gone]; rfl)
      | some value => simp
    · rw [if_neg same]
      cases value with
      | none => exact ih rest
      | some value => exact (lookup_cons_eq _ _ _).trans ((if_neg same).trans (ih rest))

/-- What is looked up in the environment that was loaded: its own value goes first. -/
theorem get?_loaded (distinct : (bs.map (·.1)).Nodup) (name : String) :
    (loaded env bs).get? name = valueOf env bs name := by
  rw [Environment.get?, loaded, List.lookup_append, ← Environment.get?, valueOf]
  cases own : env.get? name with
  | some _ => rfl
  | none =>
    have new : lacks env name = true := by simp [lacks, own]
    have some_distinct : ((missing env bs).map (·.1)).Nodup :=
      distinct.sublist (List.filter_sublist.map _)
    rw [added, lookup_valued some_distinct, missing, lookup_filter new]

/-! ## Lines that count -/

theorem nodup_set (distinct : (bs.map (·.1)).Nodup) (name : String) (value : Option String) :
    ((bs.set name value).map (·.1)).Nodup := by
  rw [Bindings.set]
  split
  · have keys : (bs.map fun b => if b.1 = name then (name, value) else b).map (·.1) =
        bs.map (·.1) := by
      rw [List.map_map]
      refine List.map_congr_left fun b _ => ?_
      dsimp only [Function.comp]
      split
      · rename_i same
        exact same.symm
      · rfl
    rw [keys]
    exact distinct
  · rename_i absent
    rw [List.map_append, List.nodup_append]
    refine ⟨distinct, List.nodup_singleton _, ?_⟩
    intro key mem _ own same
    obtain ⟨b, inside, first⟩ := List.mem_map.1 mem
    have taken : name = b.1 := ((first.trans same).trans (List.mem_singleton.1 own)).symm
    exact absent (List.lookup_isSome_iff.2 ⟨b, inside, beq_iff_eq.2 taken⟩)

theorem nodup_resolve (env : Environment) (distinct : (bs.map (·.1)).Nodup) (ss : List Statement) :
    ((resolve env bs ss).map (·.1)).Nodup := by
  induction ss generalizing bs with
  | nil => exact distinct
  | cons s ss ih =>
    cases s with
    | binding name value => exact ih (nodup_set distinct name _)
    | blank => exact ih distinct
    | unreadable => exact ih distinct

theorem missing_set_of_new (new : lacks env name = true) (value : Option String) :
    missing env (bs.set name value) = (missing env bs).set name value := by
  rw [Bindings.set, Bindings.set, missing, missing, lookup_filter new]
  split
  · rw [List.filter_map]
    congr 1
    refine List.filter_congr fun b _ => ?_
    dsimp only [Function.comp]
    split
    · rename_i same
      rw [same]
    · rfl
  · rw [List.filter_append]
    exact congrArg _ (missing_cons_of_new new)

theorem missing_set_of_known (known : lacks env name = false) (value : Option String) :
    missing env (bs.set name value) = missing env bs := by
  rw [Bindings.set]
  split
  · clear * - known
    induction bs with
    | nil => rfl
    | cons b bs ih =>
      rw [List.map_cons]
      split
      · rename_i same
        have old : lacks env b.1 = false := by rw [same, known]
        rw [missing_cons_of_known known, ih, missing_cons_of_known old]
      · cases new : lacks env b.1 with
        | false => rw [missing_cons_of_known new, ih, missing_cons_of_known new]
        | true => rw [missing_cons_of_new new, ih, missing_cons_of_new new]
  · rw [missing, List.filter_append, ← missing]
    exact (congrArg _ (missing_cons_of_known known)).trans (List.append_nil _)

/-- Names that the environment has are looked up there, whatever a file binds them to. -/
theorem lookUp_missing (env : Environment) (bs : Bindings) :
    lookUp env (missing env bs) = lookUp env bs := by
  funext name default
  rw [lookUp, lookUp]
  cases own : env.get? (String.ofList name) with
  | some _ => rfl
  | none => rw [missing, lookup_filter (by simp [lacks, own])]

/-- Does the line bind a name that the environment lacks? -/
def brings (env : Environment) : Statement → Bool
  | .binding name _ => lacks env name
  | _ => false

/-- What the environment lacks is bound by the lines that bring it: a reference to a name that the
environment has is not looked up among the bindings. -/
theorem missing_resolve (env : Environment) (bs : Bindings) (ss : List Statement) :
    missing env (resolve env bs ss) = resolve env (missing env bs) (ss.filter (brings env)) := by
  induction ss generalizing bs with
  | nil => rfl
  | cons s ss ih =>
    cases s with
    | binding name value =>
      rw [resolve, ih]
      cases new : lacks env name with
      | false => rw [missing_set_of_known new, List.filter_cons_of_neg (by simp [brings, new])]
      | true =>
        rw [missing_set_of_new new, List.filter_cons_of_pos (by simp [brings, new]), resolve,
          lookUp_missing]
    | blank => exact ih bs
    | unreadable => exact ih bs

/-- Bindings of names that the environment has can be left out, all or some of them. -/
theorem apply_filter {p : String → Bool} (kept : ∀ name, lacks env name = true → p name = true)
    (bs : Bindings) : apply env (bs.filter fun b => p b.1) = apply env bs := by
  induction bs generalizing env with
  | nil => rfl
  | cons b bs ih =>
    obtain ⟨name, value⟩ := b
    cases new : lacks env name with
    | false =>
      rw [apply_cons_of_known new, List.filter_cons]
      split
      · rw [apply_cons_of_known new, ih kept]
      · exact ih kept
    | true =>
      have absent : env.get? name = none := by simpa [lacks] using new
      rw [List.filter_cons, if_pos (kept name new)]
      cases value with
      | none => rw [apply_cons_none, apply_cons_none, ih kept]
      | some value =>
        have still : ∀ key, lacks (env.define name value) key = true → p key = true := by
          intro key still_new
          by_cases same : key = name
          · rw [same]
            exact kept name new
          · exact kept key (by rwa [lacks_define same] at still_new)
        simp only [apply, absent, ih still]

/-- Lines that bind names of the environment change nothing. -/
theorem apply_resolve_brought (env : Environment) (ss : List Statement) :
    apply env (resolve env [] (ss.filter (brings env))) = apply env (resolve env [] ss) := by
  have kept := missing_resolve env [] ss
  rw [← apply_filter (fun _ new => new) (resolve env [] ss), ← missing, kept]
  rfl

end EpubLibrary.EnvFile
