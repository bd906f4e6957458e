import EpubLibrary.Catalog.DigestSet

namespace EpubLibrary

structure Reconciliation where
  /-- found and not stored -/
  new : DigestSet
  /-- found and stored -/
  unchanged : DigestSet
  /-- stored and not found -/
  orphaned : DigestSet

/-- Splits the union of two sets of digests. -/
def reconcile (stored found : DigestSet) : Reconciliation :=
  ⟨found.diff stored, found.inter stored, stored.diff found⟩

/-- What becomes of a found file. -/
inductive Disposition where
  | new
  | unchanged
  deriving DecidableEq

def Disposition.text : Disposition → String
  | .new => "new"
  | .unchanged => "unchanged"

/-- A snapshot of the stored digests, and the digests claimed since. -/
structure Reconciler where
  stored : DigestSet
  found : DigestSet

namespace Reconciler

def start (stored : DigestSet) : Reconciler := ⟨stored, .empty⟩

/-- What a claim of a digest answers. -/
def disposition (r : Reconciler) (digest : String) : Disposition :=
  if digest ∈ r.stored ∨ digest ∈ r.found then .unchanged else .new

/-- Notes that a digest was found. -/
def note (r : Reconciler) (digest : String) : Reconciler :=
  { r with found := r.found.insert digest }

def claim (r : Reconciler) (digest : String) : Disposition × Reconciler :=
  (r.disposition digest, r.note digest)

/-- Stored digests not found so far. -/
def orphaned (r : Reconciler) : DigestSet := r.stored.diff r.found

def result (r : Reconciler) : Reconciliation := reconcile r.stored r.found

end Reconciler
end EpubLibrary
