import EpubLibrary.Proofs.Scan.Order
import Mathlib.Logic.Function.Basic

/-!
# Scans that share a store

Each of two scans begins with a snapshot of the stored digests and then claims and collects its own
files; neither sees what the other has in flight.
-/

namespace EpubLibrary

/-- Do settings derive the same records? How many files are in flight at a time is no part of it. -/
structure ScanSettings.Agree (σ τ : ScanSettings) : Prop where
  root : σ.root = τ.root
  level : σ.compressionLevel = τ.compressionLevel

namespace ScanSettings.Agree

variable {σ τ : ScanSettings}

theorem symm (h : σ.Agree τ) : τ.Agree σ := ⟨h.root.symm, h.level.symm⟩

theorem recordOf_eq (h : σ.Agree τ) (bytes : Bytes) : recordOf σ bytes = recordOf τ bytes := by
  rw [recordOf, recordOf, h.root, h.level]

theorem prepareAt_eq (h : σ.Agree τ) (l : ScanLoop) (i : Nat) :
    l.prepareAt σ i = l.prepareAt τ i := by
  simp only [ScanLoop.prepareAt, Source.prepare, h.recordOf_eq]

theorem step (h : σ.Agree τ) {l m : ScanLoop} (step : ScanLoop.Step σ l m) :
    ScanLoop.Step τ l m := by
  cases step with
  | take room left => exact .take room left
  | prepare taken =>
    rw [h.prepareAt_eq]
    exact .prepare taken
  | collect prepared fine => exact .collect prepared fine

theorem settles (h : σ.Agree τ) {p : ScanLoop → Prop} {l : ScanLoop}
    (settles : ScanLoop.Settles σ p l) : ScanLoop.Settles τ p l := by
  induction settles with
  | intro goes ends fine _ ih =>
    refine .intro (goes.imp_right ?_) ends fine fun m step => ih m (h.symm.step step)
    exact fun ⟨m, step⟩ => ⟨m, h.step step⟩

end ScanSettings.Agree

/-- The scan with the store as another one left it. -/
def ScanLoop.on (l : ScanLoop) (s : Store) : ScanLoop := { l with store := s }

@[simp] theorem ScanLoop.work_on (l : ScanLoop) (s : Store) : (l.on s).work = l.work := rfl

inductive Side where
  | left
  | right
  deriving DecidableEq

/-- A store and two scans of it. A scan that has not begun has no snapshot. -/
structure Shared where
  store : Store
  scan : Side → Option ScanLoop

namespace Shared

def start (s : Store) : Shared := ⟨s, fun _ => none⟩

/-- What is left when a scan has done something. -/
def put (w : Shared) (x : Side) (l : ScanLoop) : Shared :=
  ⟨l.store, Function.update w.scan x (some l)⟩

@[simp] theorem put_self (w : Shared) (x : Side) (l : ScanLoop) : (w.put x l).scan x = some l :=
  Function.update_self ..

theorem put_other (w : Shared) {x y : Side} (other : y ≠ x) (l : ScanLoop) :
    (w.put x l).scan y = w.scan y :=
  Function.update_of_ne other ..

def summary (w : Shared) (x : Side) : ScanSummary := ((w.scan x).map (·.summary)).getD .empty

theorem summary_eq {w : Shared} {x : Side} {l : ScanLoop} (h : w.scan x = some l) :
    w.summary x = l.summary := by
  rw [summary, h]
  rfl

/-- One step of one of the scans. -/
inductive Step (settings : Side → ScanSettings) (files : Side → List Source) :
    Shared → Shared → Prop where
  | begin {w : Shared} {x : Side} {held : DigestSet} (idle : w.scan x = none)
      (snapshot : w.store.look (·.contentHashes) = .ok held) :
      Step settings files w (w.put x (.start held w.store (files x)))
  | go {w : Shared} {x : Side} {l m : ScanLoop} (running : w.scan x = some l)
      (step : ScanLoop.Step (settings x) (l.on w.store) m) : Step settings files w (w.put x m)

def IsDone (w : Shared) : Prop := ∀ x, ∃ l, w.scan x = some l ∧ l.IsDone

/-- Nothing that comes next can abort a scan. -/
structure Fine (w : Shared) : Prop where
  snapshot : ∃ held, w.store.look (·.contentHashes) = .ok held
  collects : ∀ x l, w.scan x = some l → ∀ i, ((l.on w.store).collectAt i).1 = none

/-- However the scans are interleaved, they go on until every file is collected, neither is ever
aborted, and they end with the property. -/
inductive Settles (settings : Side → ScanSettings) (files : Side → List Source)
    (p : Shared → Prop) : Shared → Prop where
  | intro {w : Shared} (goes : w.IsDone ∨ ∃ v, Step settings files w v) (ends : w.IsDone → p w)
      (fine : w.Fine) (next : ∀ v, Step settings files w v → Settles settings files p v) :
      Settles settings files p w

variable {settings : Side → ScanSettings} {files : Side → List Source} {w v : Shared}

/-- Every file is to be taken, prepared and collected, and a scan that has not begun to begin. -/
def toDo (files : List Source) : Option ScanLoop → Nat
  | none => 3 * files.length + 1
  | some l => l.work

def work (files : Side → List Source) (w : Shared) : Nat :=
  toDo (files .left) (w.scan .left) + toDo (files .right) (w.scan .right)

theorem work_put {x : Side} {l : ScanLoop}
    (less : l.work < toDo (files x) (w.scan x)) : (w.put x l).work files < w.work files := by
  cases x with
  | left =>
    rw [work, put_self, put_other w (by decide), work, toDo]
    omega
  | right =>
    rw [work, put_self, put_other w (by decide), work]
    exact Nat.add_lt_add_left less _

/-- Every step of either leaves less to do. -/
theorem work_decreases (h : Step settings files w v) : v.work files < w.work files := by
  cases h with
  | begin idle snapshot =>
    refine work_put ?_
    rw [idle, toDo, ScanLoop.work, ScanLoop.start]
    simp
  | go running step =>
    have less := ScanLoop.work_decreases step
    rw [ScanLoop.work_on] at less
    refine work_put ?_
    rw [running]
    exact less

/-- While a scan has something to do, something can happen. -/
theorem exists_step (fine : w.Fine) : w.IsDone ∨ ∃ v, Step settings files w v := by
  by_cases next : ∃ v, Step settings files w v
  · exact .inr next
  · refine .inl fun x => ?_
    cases scan : w.scan x with
    | none =>
      obtain ⟨held, snapshot⟩ := fine.snapshot
      exact absurd ⟨_, .begin scan snapshot⟩ next
    | some l =>
      have goes : l.IsDone ∨ ∃ m, ScanLoop.Step (settings x) (l.on w.store) m :=
        ScanLoop.exists_step (fine.collects x l scan)
      rcases goes with done | ⟨m, step⟩
      · exact ⟨l, rfl, done⟩
      · exact absurd ⟨_, .go scan step⟩ next

/-- An invariant under which nothing aborts a scan holds where both end. -/
theorem settles_of_invariant {inv p : Shared → Prop} (start : inv w)
    (keeps : ∀ w v, inv w → Step settings files w v → inv v) (fine : ∀ w, inv w → w.Fine)
    (ends : ∀ w, inv w → w.IsDone → p w) : Settles settings files p w := by
  -- Every step leaves less to do, and the invariant says why there is a next one.
  induction h : w.work files using Nat.strongRecOn generalizing w with
  | ind work ih =>
    refine .intro (exists_step (fine w start)) (ends w start) (fine w start) fun v step => ?_
    have less := work_decreases step
    exact ih (v.work files) (by omega) (keeps w v start step) rfl

theorem Settles.imp {p q : Shared → Prop} (h : Settles settings files p w)
    (implies : ∀ w, p w → q w) : Settles settings files q w := by
  induction h with
  | intro goes ends fine _ ih => exact .intro goes (fun done => implies _ (ends done)) fine ih

end Shared
end EpubLibrary
