import EpubLibrary.Proofs.Catalog.Derive
import EpubLibrary.Proofs.Scan.Order
import EpubLibrary.Proofs.Scan.Replay
import Mathlib.Data.List.Perm.Basic

/-!
# Claims of a scan

Each digest that was found and is not stored has one owner among the prepared files, and every other
file with that digest is left unchanged.
-/

namespace EpubLibrary

def Prepared.ofContent (settings : ScanSettings) (bytes : Bytes) : Prepared :=
  match recordOf settings bytes with
  | .ok r => .record r
  | .error cause => .failed cause

theorem ofContent_ne_unchanged (settings : ScanSettings) (bytes : Bytes) :
    Prepared.ofContent settings bytes ≠ .unchanged := by
  unfold Prepared.ofContent
  split <;> simp

/-- Can preparing a file give this, if these digests are stored? -/
inductive Answers (settings : ScanSettings) (held : DigestSet) : Source × Prepared → Prop where
  | unreadable {s : Source} {e : FileError} (content : s.content = .error e) :
      Answers settings held (s, .failed (.unreadable e))
  | unchanged {s : Source} {bytes : Bytes} (content : s.content = .ok bytes) :
      Answers settings held (s, .unchanged)
  | extracted {s : Source} {bytes : Bytes} (content : s.content = .ok bytes)
      (new : contentDigest bytes ∉ held) :
      Answers settings held (s, .ofContent settings bytes)

theorem derived_recordOf {settings : ScanSettings} {bytes : Bytes} {r : BookRecord}
    (h : recordOf settings bytes = .ok r) :
    ∃ x, r.Derived x (contentDigest bytes) settings.root := by
  obtain ⟨x, _, derived⟩ := bind_ok_iff.1 h
  exact ⟨x, derived_of_ok (mapError_ok_iff.1 derived)⟩

theorem contentHash_recordOf {settings : ScanSettings} {bytes : Bytes} {r : BookRecord}
    (h : recordOf settings bytes = .ok r) : r.book.contentHash = contentDigest bytes := by
  obtain ⟨x, derived⟩ := derived_recordOf h
  rw [derived.book]

theorem Prepared.ofContent_ok {settings : ScanSettings} {bytes : Bytes} {r : BookRecord}
    (h : recordOf settings bytes = .ok r) : Prepared.ofContent settings bytes = .record r := by
  unfold ofContent
  generalize recordOf settings bytes = answer at h
  rw [h]

theorem Prepared.ofContent_record {settings : ScanSettings} {bytes : Bytes} {r : BookRecord}
    (h : Prepared.ofContent settings bytes = .record r) : recordOf settings bytes = .ok r := by
  unfold ofContent at h
  split at h
  · cases h
    assumption
  · cases h

theorem Prepared.ofContent_error {settings : ScanSettings} {bytes : Bytes} {cause : FailureCause}
    (h : recordOf settings bytes = .error cause) :
    Prepared.ofContent settings bytes = .failed cause := by
  unfold ofContent
  generalize recordOf settings bytes = answer at h
  rw [h]

theorem Prepared.ofContent_failed {settings : ScanSettings} {bytes : Bytes} {cause : FailureCause}
    (h : Prepared.ofContent settings bytes = .failed cause) :
    recordOf settings bytes = .error cause := by
  unfold ofContent at h
  split at h
  · cases h
  · cases h
    assumption

theorem Answers.readable {settings : ScanSettings} {held : DigestSet} {x : Source × Prepared}
    (h : Answers settings held x) (readable : ∀ e, x.2 ≠ .failed (.unreadable e)) :
    ∃ d, x.1.digest? = some d := by
  cases h with
  | unreadable content => exact absurd rfl (readable _)
  | unchanged content => exact ⟨_, digest?_eq_some.2 ⟨_, content, rfl⟩⟩
  | extracted content new => exact ⟨_, digest?_eq_some.2 ⟨_, content, rfl⟩⟩

/-- Content that is not left unchanged is extracted. -/
theorem Answers.content {settings : ScanSettings} {held : DigestSet} {x : Source × Prepared}
    {bytes : Bytes} (h : Answers settings held x) (content : x.1.content = .ok bytes)
    (changed : x.2 ≠ .unchanged) : x.2 = .ofContent settings bytes := by
  cases h with
  | unreadable content' => cases content.symm.trans content'
  | unchanged => exact absurd rfl changed
  | extracted content' =>
    cases content.symm.trans content'
    rfl

/-- A record that a file was prepared to is that of its new content. -/
theorem Answers.record {settings : ScanSettings} {held : DigestSet} {f : Source} {r : BookRecord}
    (h : Answers settings held (f, .record r)) :
    ∃ bytes, f.content = .ok bytes ∧ contentDigest bytes ∉ held ∧
      recordOf settings bytes = .ok r := by
  generalize eq : Prepared.record r = prepared at h
  cases h with
  | unreadable content => cases eq
  | unchanged content => cases eq
  | extracted content new => exact ⟨_, content, new, Prepared.ofContent_record eq.symm⟩

/-- A failure of a file that can be read is one of its new content. -/
theorem Answers.failed {settings : ScanSettings} {held : DigestSet} {f : Source} {bytes : Bytes}
    {cause : FailureCause} (h : Answers settings held (f, .failed cause))
    (content : f.content = .ok bytes) :
    contentDigest bytes ∉ held ∧ recordOf settings bytes = .error cause := by
  generalize eq : Prepared.failed cause = prepared at h
  cases h with
  | unreadable content' => cases content.symm.trans content'
  | unchanged content' => cases eq
  | extracted content' new =>
    cases content.symm.trans content'
    exact ⟨new, Prepared.ofContent_failed eq.symm⟩

theorem Answers.digest_record {settings : ScanSettings} {held : DigestSet} {f : Source}
    {r : BookRecord} (h : Answers settings held (f, .record r)) :
    f.digest? = some r.book.contentHash := by
  obtain ⟨bytes, content, _, derived⟩ := h.record
  rw [contentHash_recordOf derived]
  exact digest?_eq_some.2 ⟨bytes, content, rfl⟩

def owned? (x : Source × Prepared) : Option String :=
  if x.2 = .unchanged then none else x.1.digest?

theorem owned?_eq_some {x : Source × Prepared} {d : String} :
    owned? x = some d ↔ x.2 ≠ .unchanged ∧ x.1.digest? = some d := by
  unfold owned?
  split <;> simp_all

/-- The prepared files are those that the reconciler was asked about. -/
structure Claims (settings : ScanSettings) (held : DigestSet) (r : Reconciler)
    (seen : List (Source × Prepared)) : Prop where
  stored : r.stored = held
  found : ∀ d, d ∈ r.found ↔ ∃ x ∈ seen, x.1.digest? = some d
  answers : ∀ x ∈ seen, Answers settings held x
  once : (seen.filterMap owned?).Nodup
  owner : ∀ d, d ∈ seen.filterMap owned? ↔ d ∈ r.found ∧ d ∉ held

section
variable {settings : ScanSettings} {held : DigestSet} {r : Reconciler}
  {seen seen' : List (Source × Prepared)}

theorem claims_start : Claims settings held (.start held) [] := by
  refine ⟨rfl, ?_, ?_, ?_, ?_⟩ <;> simp [Reconciler.start]

/-- The claims are the same in whatever order the files are listed. -/
theorem Claims.perm (h : Claims settings held r seen) (same : seen.Perm seen') :
    Claims settings held r seen' where
  stored := h.stored
  found := by
    intro d
    rw [h.found]
    simp only [same.mem_iff]
  answers := fun x hx => h.answers x (same.mem_iff.2 hx)
  once := (same.filterMap owned?).nodup_iff.1 h.once
  owner := by
    intro d
    rw [← (same.filterMap owned?).mem_iff]
    exact h.owner d

/-- A file that cannot be read claims nothing. -/
theorem prepare_unreadable {s : Source} {e : FileError} (h : s.content = .error e) :
    s.prepare settings r = (.failed (.unreadable e), r) := by
  simp only [Source.prepare, h]

/-- A file that can be read claims its digest, and derives a record if the digest is new. -/
theorem prepare_readable {s : Source} {bytes : Bytes} (h : s.content = .ok bytes) :
    s.prepare settings r =
      (if contentDigest bytes ∈ r.stored ∨ contentDigest bytes ∈ r.found then .unchanged
        else .ofContent settings bytes, r.note (contentDigest bytes)) := by
  by_cases known : contentDigest bytes ∈ r.stored ∨ contentDigest bytes ∈ r.found
  · simp only [Source.prepare, h, Reconciler.claim, Reconciler.disposition, if_pos known]
  · rw [if_neg known]
    unfold Source.prepare Prepared.ofContent
    simp only [h, Reconciler.claim, Reconciler.disposition, if_neg known]
    generalize recordOf settings bytes = answer
    cases answer with
    | ok r => rfl
    | error cause => rfl

theorem Claims.unreadable (h : Claims settings held r seen) {s : Source} {e : FileError}
    (content : s.content = .error e) :
    Claims settings held r ((s, .failed (.unreadable e)) :: seen) := by
  have noDigest : s.digest? = none := by simp only [Source.digest?, content]
  refine ⟨h.stored, ?_, ?_, ?_, ?_⟩
  · intro d
    rw [h.found]
    simp [noDigest]
  · intro x hx
    rcases List.mem_cons.1 hx with rfl | hx
    · exact .unreadable content
    · exact h.answers x hx
  · simpa [owned?, noDigest] using h.once
  · simpa [owned?, noDigest] using h.owner

/-- A file whose digest is known owns nothing. -/
theorem Claims.known (h : Claims settings held r seen) {s : Source} {bytes : Bytes}
    (content : s.content = .ok bytes)
    (known : contentDigest bytes ∈ r.stored ∨ contentDigest bytes ∈ r.found) :
    Claims settings held (r.note (contentDigest bytes)) ((s, .unchanged) :: seen) := by
  have digest : s.digest? = some (contentDigest bytes) := by simp only [Source.digest?, content]
  have nothing : ((s, Prepared.unchanged) :: seen).filterMap owned? = seen.filterMap owned? := by
    simp [owned?]
  refine ⟨h.stored, ?_, ?_, ?_, ?_⟩
  · intro d
    simp only [Reconciler.note, DigestSet.mem_insert, h.found, List.mem_cons, exists_eq_or_imp,
      digest, Option.some.injEq, eq_comm]
  · intro x hx
    rcases List.mem_cons.1 hx with rfl | hx
    · exact .unchanged content
    · exact h.answers x hx
  · rw [nothing]
    exact h.once
  · intro d
    rw [nothing, h.owner]
    simp only [Reconciler.note, DigestSet.mem_insert]
    rw [h.stored] at known
    constructor
    · rintro ⟨found, new⟩
      exact ⟨.inr found, new⟩
    · rintro ⟨rfl | found, new⟩
      · exact ⟨known.resolve_left new, new⟩
      · exact ⟨found, new⟩

/-- The first file with a digest that is not stored owns it. -/
theorem Claims.new (h : Claims settings held r seen) {s : Source} {bytes : Bytes}
    (content : s.content = .ok bytes)
    (new : ¬ (contentDigest bytes ∈ r.stored ∨ contentDigest bytes ∈ r.found)) :
    Claims settings held (r.note (contentDigest bytes))
      ((s, .ofContent settings bytes) :: seen) := by
  have digest : s.digest? = some (contentDigest bytes) := by simp only [Source.digest?, content]
  have owns : ((s, Prepared.ofContent settings bytes) :: seen).filterMap owned? =
      contentDigest bytes :: seen.filterMap owned? := by
    refine List.filterMap_cons_some ?_
    rw [owned?, if_neg (ofContent_ne_unchanged settings bytes), digest]
  obtain ⟨notStored, notFound⟩ := not_or.1 new
  rw [h.stored] at notStored
  refine ⟨h.stored, ?_, ?_, ?_, ?_⟩
  · intro d
    simp only [Reconciler.note, DigestSet.mem_insert, h.found, List.mem_cons, exists_eq_or_imp,
      digest, Option.some.injEq, eq_comm]
  · intro x hx
    rcases List.mem_cons.1 hx with rfl | hx
    · exact .extracted content notStored
    · exact h.answers x hx
  · rw [owns, List.nodup_cons, h.owner]
    exact ⟨fun owned => notFound owned.1, h.once⟩
  · intro d
    rw [owns, List.mem_cons, h.owner]
    simp only [Reconciler.note, DigestSet.mem_insert]
    constructor
    · rintro (rfl | ⟨found, new⟩)
      · exact ⟨.inl rfl, notStored⟩
      · exact ⟨.inr found, new⟩
    · rintro ⟨rfl | found, new⟩
      · exact .inl rfl
      · exact .inr ⟨found, new⟩

/-- Preparing one more file keeps the claims. -/
theorem Claims.prepare (h : Claims settings held r seen) (s : Source) :
    Claims settings held (s.prepare settings r).2
      ((s, (s.prepare settings r).1) :: seen) := by
  cases content : s.content with
  | error e =>
    rw [prepare_unreadable content]
    exact h.unreadable content
  | ok bytes =>
    rw [prepare_readable content]
    by_cases known : contentDigest bytes ∈ r.stored ∨ contentDigest bytes ∈ r.found
    · rw [if_pos known]
      exact h.known content known
    · rw [if_neg known]
      exact h.new content known

end

end EpubLibrary
