import EpubLibrary.Proofs.Catalog.Growth
import EpubLibrary.Scan.Loop

namespace EpubLibrary

def Source.digest? (s : Source) : Option String :=
  match s.content with
  | .ok bytes => some (contentDigest bytes)
  | .error _ => none

theorem digest?_eq_some {s : Source} {d : String} :
    s.digest? = some d ↔ ∃ bytes, s.content = .ok bytes ∧ contentDigest bytes = d := by
  unfold Source.digest?
  split <;> simp_all

inductive Verdict where
  | kept
  | imported (r : BookRecord)
  | failed (cause : FailureCause)

/-- A collected file: what preparing it gave, and what became of it. -/
structure Collected where
  source : Source
  prepared : Prepared
  verdict : Verdict

namespace Collected

def claim (c : Collected) : Source × Prepared := (c.source, c.prepared)

def record? : Collected → Option BookRecord
  | ⟨_, _, .kept⟩ => none
  | ⟨_, _, .imported r⟩ => some r
  | ⟨_, _, .failed _⟩ => none

def failure? : Collected → Option ScanFailure
  | ⟨_, _, .kept⟩ => none
  | ⟨_, _, .imported _⟩ => none
  | ⟨source, _, .failed cause⟩ => some ⟨source.path, cause⟩

def failedDigest? : Collected → Option String
  | ⟨_, _, .kept⟩ => none
  | ⟨_, _, .imported _⟩ => none
  | ⟨source, _, .failed _⟩ => source.digest?

def isKept : Collected → Bool
  | ⟨_, _, .kept⟩ => true
  | ⟨_, _, .imported _⟩ => false
  | ⟨_, _, .failed _⟩ => false

end Collected

/-! ## Verdicts -/

/-- What a store makes of a prepared file, and the store after it. -/
inductive Judged (s : Store) : Collected → Store → Prop where
  | unchanged {f : Source} : Judged s ⟨f, .unchanged, .kept⟩ s
  | failed {f : Source} {cause : FailureCause} : Judged s ⟨f, .failed cause, .failed cause⟩ s
  | imported {f : Source} {r : BookRecord} {s' : Store} (answer : s.importBook r = (.ok true, s')) :
      Judged s ⟨f, .record r, .imported r⟩ s'
  | held {f : Source} {r : BookRecord} (answer : s.importBook r = (.ok false, s)) :
      Judged s ⟨f, .record r, .kept⟩ s
  | collided {f : Source} {r : BookRecord} {c : Collision}
      (answer : s.importBook r = (.error (.collision c), s)) :
      Judged s ⟨f, .record r, .failed (.collision c (Epub.declared r.book.identifier))⟩ s

/-- The files collected from a store, in this order, and the store after them. -/
inductive Replay (s : Store) : List Collected → Store → Prop where
  | nil : Replay s [] s
  | snoc {past : List Collected} {c : Collected} {t u : Store} (before : Replay s past t)
      (last : Judged t c u) : Replay s (past ++ [c]) u

theorem Judged.record {s t : Store} {c : Collected} {r : BookRecord} (h : Judged s c t)
    (imported : c.record? = some r) : c.prepared = .record r := by
  cases h <;> cases imported
  rfl

theorem Replay.judged {s v : Store} {past : List Collected} {c : Collected} (h : Replay s past v)
    (mem : c ∈ past) : ∃ t u, Judged t c u := by
  induction h with
  | nil => cases mem
  | snoc _ last ih =>
    rcases List.mem_append.1 mem with old | new
    · exact ih old
    · rw [List.mem_singleton.1 new]
      exact ⟨_, _, last⟩

/-- The store gets the record that was imported, if one was, and nothing else. -/
theorem Judged.grows {s t : Store} {c : Collected} (h : Judged s c t) (sound : s.Sound) :
    t.Sound ∧ t = s.plusAll c.record?.toList := by
  cases h with
  | unchanged => exact ⟨sound, rfl⟩
  | failed => exact ⟨sound, rfl⟩
  | imported answer => exact Store.importBook_true sound answer
  | held answer => exact ⟨sound, rfl⟩
  | collided answer => exact ⟨sound, rfl⟩

/-- The store gets what was imported. -/
theorem Replay.grows {s t : Store} {past : List Collected} (h : Replay s past t)
    (sound : s.Sound) : t.Sound ∧ t = s.plusAll (past.filterMap (·.record?)) := by
  induction h with
  | nil => exact ⟨sound, rfl⟩
  | @snoc past c t u _ last ih =>
    obtain ⟨sound, grown⟩ := ih
    obtain ⟨sound, more⟩ := last.grows sound
    refine ⟨sound, ?_⟩
    rw [more, grown, ← Store.plusAll_append, List.filterMap_append]
    cases eq : c.record? <;> simp [eq]

/-- Each file was judged by a store that has since only grown. -/
theorem Replay.of_mem {s v : Store} {past : List Collected} {c : Collected} (h : Replay s past v)
    (sound : s.Sound) (mem : c ∈ past) :
    ∃ t u rs, t.Sound ∧ Judged t c u ∧ v = u.plusAll rs := by
  induction h with
  | nil => cases mem
  | @snoc past d t u before last ih =>
    have grown := (before.grows sound).1
    rcases List.mem_append.1 mem with old | new
    · obtain ⟨t', u', rs, sound', judged, rfl⟩ := ih old
      refine ⟨t', u', rs ++ d.record?.toList, sound', judged, ?_⟩
      rw [(last.grows grown).2, Store.plusAll_append]
    · rw [List.mem_singleton.1 new]
      exact ⟨t, u, [], grown, last, rfl⟩

end EpubLibrary
