import EpubLibrary.Catalog.Reconcile
import Mathlib.Data.List.Basic

namespace EpubLibrary

/-- The parts of a split: every digest that is stored or found is in exactly one of them. -/
structure Reconciliation.Splits (parts : Reconciliation) (stored : DigestSet)
    (found : List String) : Prop where
  covers : ∀ d, (d ∈ parts.new ∨ d ∈ parts.unchanged ∨ d ∈ parts.orphaned) ↔ d ∈ stored ∨ d ∈ found
  new_unchanged : ∀ d ∈ parts.new, d ∉ parts.unchanged
  new_orphaned : ∀ d ∈ parts.new, d ∉ parts.orphaned
  unchanged_orphaned : ∀ d ∈ parts.unchanged, d ∉ parts.orphaned

theorem splits_reconcile (stored : DigestSet) (found : List String) :
    (reconcile stored (.ofList found)).Splits stored found := by
  constructor
  · intro d
    simp only [reconcile, DigestSet.mem_diff, DigestSet.mem_inter, DigestSet.mem_ofList]
    tauto
  · intro d new unchanged
    exact (DigestSet.mem_diff.1 new).2 (DigestSet.mem_inter.1 unchanged).2
  · intro d new orphaned
    exact (DigestSet.mem_diff.1 orphaned).2 (DigestSet.mem_diff.1 new).1
  · intro d unchanged orphaned
    exact (DigestSet.mem_diff.1 orphaned).2 (DigestSet.mem_inter.1 unchanged).1

namespace Reconciler

inductive Request where
  | claim (digest : String)
  | orphaned
  | result

inductive Response where
  | claimed (disposition : Disposition)
  | orphaned (digests : DigestSet)
  | result (parts : Reconciliation)

namespace Request

def run (r : Reconciler) : Request → Response × Reconciler
  | .claim digest => (.claimed (r.claim digest).1, (r.claim digest).2)
  | .orphaned => (.orphaned r.orphaned, r)
  | .result => (.result r.result, r)

def digest? : Request → Option String
  | .claim digest => some digest
  | .orphaned => none
  | .result => none

/-- What splitting the stored and the claimed digests as a whole answers: a claim finds a new digest
if it is the first one of a digest that is new among those claimed by then. -/
def batch (stored : DigestSet) (past : List String) : Request → Response
  | .claim digest =>
    .claimed (if digest ∈ (reconcile stored (.ofList (past ++ [digest]))).new ∧ digest ∉ past
      then .new else .unchanged)
  | .orphaned => .orphaned (reconcile stored (.ofList past)).orphaned
  | .result => .result (reconcile stored (.ofList past))

end Request

def claimed (requests : List Request) : List String := requests.filterMap (·.digest?)

def runAll (r : Reconciler) : List Request → List Response × Reconciler
  | [] => ([], r)
  | request :: rest => ((request.run r).1 :: (runAll (request.run r).2 rest).1,
      (runAll (request.run r).2 rest).2)

/-- The digest that a request was told to be new. -/
def new? : Request × Response → Option String
  | (.claim digest, .claimed .new) => some digest
  | _ => none

/-- The digests that some requests are told to be new, in their order. -/
def newlyFound (r : Reconciler) (requests : List Request) : List String :=
  (requests.zip (r.runAll requests).1).filterMap new?

theorem runAll_append (r : Reconciler) (before after : List Request) :
    r.runAll (before ++ after) = ((r.runAll before).1 ++ ((r.runAll before).2.runAll after).1,
      ((r.runAll before).2.runAll after).2) := by
  induction before generalizing r with
  | nil => rfl
  | cons request before ih =>
    rw [List.cons_append, runAll, ih]
    rfl

theorem length_runAll (r : Reconciler) (requests : List Request) :
    (r.runAll requests).1.length = requests.length := by
  induction requests generalizing r with
  | nil => rfl
  | cons request rest ih => rw [runAll, List.length_cons, List.length_cons, ih]

theorem stored_runAll (r : Reconciler) (requests : List Request) :
    (r.runAll requests).2.stored = r.stored := by
  induction requests generalizing r with
  | nil => rfl
  | cons request rest ih =>
    rw [runAll, ih]
    cases request <;> rfl

/-- All that a reconciler keeps of its past is which digests were claimed. -/
theorem mem_found_runAll (r : Reconciler) (requests : List Request) (d : String) :
    d ∈ (r.runAll requests).2.found ↔ d ∈ r.found ∨ d ∈ claimed requests := by
  induction requests generalizing r with
  | nil => simp [runAll, claimed]
  | cons request rest ih =>
    rw [runAll, ih]
    cases request with
    | claim digest =>
      simp only [Request.run, claim, note, DigestSet.mem_insert, claimed, Request.digest?,
        List.filterMap_cons, List.mem_cons]
      tauto
    | orphaned => rfl
    | result => rfl

/-- After some requests a reconciler is what the digests they claim make of it. -/
theorem runAll_state (stored : DigestSet) (requests : List Request) :
    ((start stored).runAll requests).2 = ⟨stored, .ofList (claimed requests)⟩ := by
  have found : ((start stored).runAll requests).2.found = .ofList (claimed requests) := by
    refine DigestSet.ext_mem fun d => ?_
    rw [mem_found_runAll, DigestSet.mem_ofList]
    exact or_iff_right DigestSet.not_mem_empty
  have snapshot : ((start stored).runAll requests).2.stored = stored := stored_runAll _ _
  calc ((start stored).runAll requests).2
    _ = ⟨((start stored).runAll requests).2.stored, ((start stored).runAll requests).2.found⟩ := rfl
    _ = ⟨stored, .ofList (claimed requests)⟩ := by rw [snapshot, found]

/-- A reconciler that some digests made answers as `reconcile` does. -/
theorem run_eq_batch (stored : DigestSet) (past : List String) (request : Request) :
    (request.run ⟨stored, .ofList past⟩).1 = request.batch stored past := by
  cases request with
  | claim digest =>
    simp only [Request.run, claim, disposition, Request.batch, reconcile, DigestSet.mem_ofList,
      DigestSet.mem_diff, List.mem_append, List.mem_singleton]
    by_cases held : digest ∈ stored <;> by_cases known : digest ∈ past <;> simp [held, known]
  | orphaned => rfl
  | result => rfl

/-! ## What is found new -/

theorem newlyFound_cons (r : Reconciler) (request : Request) (rest : List Request) :
    r.newlyFound (request :: rest) =
      (new? (request, (request.run r).1)).toList ++ (request.run r).2.newlyFound rest := by
  rw [newlyFound, runAll, List.zip_cons_cons, List.filterMap_cons]
  cases new? (request, (request.run r).1) <;> rfl

theorem new?_claim (r : Reconciler) (digest : String) :
    new? (.claim digest, (Request.run r (.claim digest)).1) =
      if digest ∈ r.stored ∨ digest ∈ r.found then none else some digest := by
  simp only [Request.run, claim, disposition]
  split <;> rfl

/-- What is found new is neither stored nor known, and no digest is found new twice. -/
theorem newlyFound_spec (r : Reconciler) (requests : List Request) :
    (r.newlyFound requests).Nodup ∧ ∀ d, d ∈ r.newlyFound requests ↔
      d ∈ claimed requests ∧ d ∉ r.stored ∧ d ∉ r.found := by
  induction requests generalizing r with
  | nil => simp [newlyFound, claimed]
  | cons request rest ih =>
    cases request with
    | orphaned => exact ih r
    | result => exact ih r
    | claim digest =>
      obtain ⟨once, new⟩ := ih (r.note digest)
      have rest_new (d : String) : d ∈ (r.note digest).newlyFound rest ↔
          d ∈ claimed rest ∧ d ∉ r.stored ∧ d ≠ digest ∧ d ∉ r.found := by
        rw [new d]
        simp only [note, DigestSet.mem_insert, not_or, ne_eq]
      have all : claimed (.claim digest :: rest) = digest :: claimed rest := rfl
      rw [newlyFound_cons, new?_claim, all]
      have next : (Request.run r (.claim digest)).2 = r.note digest := rfl
      rw [next]
      -- A claim that finds its digest known adds nothing; any other puts it in front of the rest.
      split
      · rename_i known
        refine ⟨once, fun d => ?_⟩
        rw [Option.toList_none, List.nil_append, rest_new, List.mem_cons]
        constructor
        · rintro ⟨later, free, _, unseen⟩
          exact ⟨.inr later, free, unseen⟩
        · rintro ⟨rfl | later, free, unseen⟩
          · exact absurd known (not_or.2 ⟨free, unseen⟩)
          · refine ⟨later, free, ?_, unseen⟩
            rintro rfl
            exact not_or.2 ⟨free, unseen⟩ known
      · rename_i unknown
        obtain ⟨free, unseen⟩ := not_or.1 unknown
        rw [Option.toList_some, List.singleton_append]
        refine ⟨List.nodup_cons.2 ⟨?_, once⟩, fun d => ?_⟩
        · intro again
          exact ((rest_new digest).1 again).2.2.1 rfl
        · rw [List.mem_cons, rest_new, List.mem_cons]
          by_cases same : d = digest
          · subst same
            simp [free, unseen]
          · simp [same]

/-- What is told to be new, one digest at a time, is what splitting them all at once finds new. -/
theorem mem_newlyFound (stored : DigestSet) (requests : List Request) (d : String) :
    d ∈ (start stored).newlyFound requests ↔
      d ∈ (reconcile stored (.ofList (claimed requests))).new := by
  rw [((start stored).newlyFound_spec requests).2 d, reconcile, DigestSet.mem_diff,
    DigestSet.mem_ofList]
  exact and_congr_right fun _ => and_iff_left DigestSet.not_mem_empty

/-! ## Refinement -/

/-- Every request is answered as `reconcile` answers it for the digests claimed so far. The digests
found new are those of its split, each found new once, and its parts share no digest and hold all of
them. Other requests that claim the same digests, in any order and any number, end in the same
split and find the same digests new. -/
theorem answers_as_batch (stored : DigestSet) (requests : List Request) :
    (∀ before request after, requests = before ++ request :: after →
      ((start stored).runAll requests).1[before.length]? =
        some (request.batch stored (claimed before))) ∧
    ((start stored).newlyFound requests).Nodup ∧
    (∀ d, d ∈ (start stored).newlyFound requests ↔
      d ∈ (reconcile stored (.ofList (claimed requests))).new) ∧
    (reconcile stored (.ofList (claimed requests))).Splits stored (claimed requests) ∧
    ∀ others, (∀ d, d ∈ claimed others ↔ d ∈ claimed requests) →
      ((start stored).runAll others).2.result = ((start stored).runAll requests).2.result ∧
      ∀ d, d ∈ (start stored).newlyFound others ↔ d ∈ (start stored).newlyFound requests := by
  refine ⟨?_, ((start stored).newlyFound_spec requests).1, mem_newlyFound stored requests,
    splits_reconcile stored _, fun others same => ?_⟩
  · rintro before request after rfl
    have here : before.length = ((start stored).runAll before).1.length :=
      (length_runAll _ before).symm
    rw [runAll_append, here, List.getElem?_append_right (Nat.le_refl _), Nat.sub_self,
      runAll_state, runAll, List.getElem?_cons_zero, run_eq_batch]
  · have found : DigestSet.ofList (claimed others) = .ofList (claimed requests) :=
      DigestSet.ext_mem fun d => by rw [DigestSet.mem_ofList, DigestSet.mem_ofList, same d]
    refine ⟨?_, fun d => ?_⟩
    · rw [runAll_state, runAll_state, found]
    · rw [mem_newlyFound, mem_newlyFound, found]

/-- Two copies of one file and a stored one, claimed in two orders with a question between. -/
theorem answers_as_batch_copies :
    (∀ d, d ∈ claimed [.claim "b", .claim "a", .claim "b"] ↔
      d ∈ claimed [.claim "a", .orphaned, .claim "b"]) ∧
    ∀ d, d ∈ (start (.ofList ["a", "c"])).newlyFound [.claim "b", .claim "a", .claim "b"] ↔
      d ∈ (start (.ofList ["a", "c"])).newlyFound [.claim "a", .orphaned, .claim "b"] := by
  have same (d : String) : d ∈ claimed [.claim "b", .claim "a", .claim "b"] ↔
      d ∈ claimed [.claim "a", .orphaned, .claim "b"] := by
    simp only [claimed, Request.digest?, List.filterMap_cons, List.filterMap_nil, List.mem_cons,
      List.not_mem_nil, or_false]
    tauto
  exact ⟨same, ((answers_as_batch _ _).2.2.2.2 _ same).2⟩

end Reconciler
end EpubLibrary
