import EpubLibrary.Catalog.Bookmarks
import EpubLibrary.Proofs.Catalog.Import
import Mathlib.Logic.Relation

/-!
# Stores that calls lead to

`Store.Change` is one call on an open store, whether it succeeds or not. The stores that calls lead
to from the empty one are open and keep the rules of the tables. What an import of any draft gives
on such a store is `import_outcome`.
-/

namespace EpubLibrary.Store

/-- One call. Its answer may be an error. -/
inductive Change : Store → Store → Prop where
  | importDraft (s : Store) (r : RecordDraft) : Change s (s.importDraft r).2
  | saveBookmark (s : Store) (bookId chapterId : LooseText) (progress createdAt : Number) :
      Change s (s.saveBookmark bookId chapterId progress createdAt).2
  | deleteBookmark (s : Store) (bookId : LooseText) : Change s (s.deleteBookmark bookId).2
  | setBookmark (s : Store) (bookId chapterId : LooseText) (progress now : Number) :
      Change s (s.setBookmark bookId chapterId progress now).2
  | reopen (s : Store) : Change s s.close.reopen

/-- The stores that calls lead to. -/
def Reachable (s : Store) : Prop := Relation.ReflTransGen Change .empty s

structure Sound (s : Store) : Prop where
  isOpen : s.isOpen = true
  valid : s.tables.Valid

theorem sound_importDraft {s : Store} (h : s.Sound) (r : RecordDraft) :
    (s.importDraft r).2.Sound := by
  unfold importDraft
  split
  · exact h
  split
  · exact h
  split
  · exact h
  · exact h
  · rename_i t added
    obtain ⟨_, _, rows, _, admits, rfl⟩ := Tables.importDraft_adds h.valid added
    exact ⟨h.isOpen, admits.valid⟩

/-- A save leaves the rows as they are or puts in one bookmark. -/
theorem saveBookmark_cases (s : Store) (bookId chapterId : LooseText)
    (progress createdAt : Number) :
    (s.saveBookmark bookId chapterId progress createdAt).2.isOpen = s.isOpen ∧
    ((s.saveBookmark bookId chapterId progress createdAt).2.tables = s.tables ∨
      ∃ b c p a, s.tables.putBookmark b c p a =
        .ok (s.saveBookmark bookId chapterId progress createdAt).2.tables) := by
  unfold saveBookmark
  split
  · exact ⟨rfl, .inl rfl⟩
  dsimp only
  split
  · rename_i t saved
    obtain ⟨b, _, rest⟩ := bind_ok_iff.1 saved
    obtain ⟨c, _, rest⟩ := bind_ok_iff.1 rest
    obtain ⟨p, _, rest⟩ := bind_ok_iff.1 rest
    obtain ⟨a, _, put⟩ := bind_ok_iff.1 rest
    exact ⟨rfl, .inr ⟨b, c, p, a, put⟩⟩
  · exact ⟨rfl, .inl rfl⟩

theorem sound_saveBookmark {s : Store} (h : s.Sound) (bookId chapterId : LooseText)
    (progress createdAt : Number) :
    (s.saveBookmark bookId chapterId progress createdAt).2.Sound := by
  obtain ⟨isOpen, kept | ⟨b, c, p, a, put⟩⟩ :=
    s.saveBookmark_cases bookId chapterId progress createdAt
  · exact ⟨isOpen.trans h.isOpen, kept ▸ h.valid⟩
  · exact ⟨isOpen.trans h.isOpen, Tables.putBookmark_valid h.valid put⟩

theorem sound_deleteBookmark {s : Store} (h : s.Sound) (bookId : LooseText) :
    (s.deleteBookmark bookId).2.Sound := by
  unfold deleteBookmark
  split
  · exact h
  split
  · exact ⟨h.isOpen, Tables.deleteBookmark_valid h.valid _⟩
  · exact ⟨h.isOpen, h.valid⟩

theorem sound_setBookmark {s : Store} (h : s.Sound) (bookId chapterId : LooseText)
    (progress now : Number) : (s.setBookmark bookId chapterId progress now).2.Sound := by
  unfold setBookmark
  split
  · exact h
  · dsimp only
    have saved := sound_saveBookmark h bookId chapterId (.binary (progress.toBinary?.getD .nan)) now
    split <;> simp_all

/-- Every call keeps the rules, whether it succeeds or not. -/
theorem Change.sound {s s' : Store} (h : Change s s') (sound : s.Sound) : s'.Sound := by
  cases h with
  | importDraft r => exact sound_importDraft sound r
  | saveBookmark bookId chapterId progress createdAt => exact sound_saveBookmark sound _ _ _ _
  | deleteBookmark bookId => exact sound_deleteBookmark sound bookId
  | setBookmark bookId chapterId progress now => exact sound_setBookmark sound _ _ _ _
  | reopen => exact ⟨rfl, sound.valid⟩

theorem Reachable.sound {s : Store} (h : s.Reachable) : s.Sound := by
  induction h with
  | refl => exact ⟨rfl, Tables.valid_empty⟩
  | tail _ change ih => exact change.sound ih

/-- On an idle store an import is an import into its tables. -/
theorem importDraft_idle {s : Store} (isOpen : s.isOpen = true) (idle : s.isPending = false)
    (r : RecordDraft) : s.importDraft r =
      match s.tables.importDraft r with
      | .error e => (.error e, s)
      | .ok none => (.ok false, s)
      | .ok (some t) => (.ok true, { s with tables := t }) := by
  simp only [importDraft, isOpen, idle]
  rfl

/-- An import of a draft is decided by the first of four cases that applies: its content is held, an
identifier collides, its rows are refused, or all of its rows are added and nothing else. A loose
text may stop it at any point behind the first case. Nothing is added then. -/
theorem import_outcome {s : Store} (reach : s.Reachable) (idle : s.isPending = false)
    (r : RecordDraft) :
    (s.tables.Holds r → s.importDraft r = (.ok false, s)) ∧
    (r.Clean → ¬ s.tables.Holds r → s.tables.Collides r →
      ∃ c, s.importDraft r = (.error (.collision c), s)) ∧
    (r.Clean → ¬ s.tables.Holds r → ¬ s.tables.Collides r →
      (¬ ∃ rows : BookRecord, r = rows.draft ∧ s.tables.Admits rows) →
      ∃ e, s.importDraft r = (.error e, s) ∧ (e = .tooLarge ∨ ∃ v, e = .violation v)) ∧
    (∀ rows : BookRecord, ¬ s.tables.Holds r → ¬ s.tables.Collides r → r = rows.draft →
      s.tables.Admits rows →
      s.importDraft r = (.ok true, { s with tables := s.tables.plus rows })) ∧
    (¬ r.Clean → ¬ s.tables.Holds r → ∃ e, s.importDraft r = (.error e, s) ∧
      ((∃ u, e = .unencodable u) ∨ s.tables.Collides r ∧ (∃ c, e = .collision c) ∨
        e = .tooLarge ∨ ∃ v, e = .violation v)) := by
  have sound := reach.sound
  rw [importDraft_idle sound.isOpen idle]
  refine ⟨?_, ?_, ?_, ?_, ?_⟩
  · intro held
    rw [Tables.importDraft_held sound.valid held]
  · intro clean new collides
    obtain ⟨c, hc⟩ := Tables.importDraft_collides clean new collides
    exact ⟨c, by rw [hc]⟩
  · intro clean new free refused
    rw [Tables.importDraft_new clean new free]
    cases added : s.tables.addRecord r with
    | error e => exact ⟨e, rfl, (Tables.failsIn_addRecord _ _ e added).of_clean clean⟩
    | ok t =>
      obtain ⟨rows, eq, admits, _⟩ := (Tables.addRecord_ok_iff sound.valid).1 added
      exact absurd ⟨rows, eq, admits⟩ refused
  · rintro rows new free rfl admits
    rw [Tables.importDraft_new rows.clean_draft new free,
      (Tables.addRecord_ok_iff sound.valid).2 ⟨rows, rfl, admits, rfl⟩]
    rfl
  · intro loose new
    rcases Tables.importDraft_cases new with ⟨e, refused, stops⟩ | ⟨_, eq⟩
    · rw [refused]
      refine ⟨e, rfl, ?_⟩
      cases stops with
      | taken c collides => exact .inr (.inl ⟨collides, c, rfl⟩)
      | loose u => exact .inl ⟨u, rfl⟩
    · rw [eq]
      cases added : s.tables.addRecord r with
      | error e =>
        refine ⟨e, rfl, ?_⟩
        cases Tables.failsIn_addRecord _ _ e added with
        | tooLarge => exact .inr (.inr (.inl rfl))
        | violation v => exact .inr (.inr (.inr ⟨v, rfl⟩))
        | loose _ _ u => exact .inl ⟨u, rfl⟩
      | ok t =>
        obtain ⟨rows, rfl, _⟩ := (Tables.addRecord_ok_iff sound.valid).1 added
        exact absurd rows.clean_draft loose

def oneBook : Store :=
  (empty.importBook ⟨⟨some "b", "", "en", "Emma", "d", none, none, none⟩, [⟨some "c", "b", 0, []⟩],
    []⟩).2

/-- Another book whose chapter has the identifier of the stored one is not imported. -/
theorem import_outcome_of_taken_chapter :
    oneBook.Reachable ∧ oneBook.isPending = false ∧
    ∃ c, oneBook.importBook ⟨⟨some "b2", "", "en", "Persuasion", "d2", none, none, none⟩,
      [⟨some "c", "b2", 0, []⟩], []⟩ = (.error (.collision c), oneBook) := by
  have reach : oneBook.Reachable := .single (.importDraft _ _)
  refine ⟨reach, rfl, (import_outcome reach rfl _).2.1 (BookRecord.clean_draft _) ?_ ?_⟩
  · rintro ⟨b, hb, digest, _⟩
    rw [List.mem_singleton.1 hb] at digest
    exact absurd digest (by decide)
  · exact .chapter (List.mem_singleton_self _) rfl (by decide)

/-- A draft that lacks nothing but may lack a title. -/
def titled (title : Option LooseText) : RecordDraft :=
  ⟨⟨some (.text "b"), some (.text ""), some (.text "en"), title, some (.text "d"), none, none,
    none⟩, [], []⟩

/-- A surrogate that stands alone in the title stops the import of an otherwise good record, and so
does a title that is missing. -/
theorem import_stops_at_title :
    (empty.importDraft (titled (some (.text "Emma")))).1 = .ok true ∧
    (empty.importDraft (titled (some (.stray "" 0 [])))).1 = .error (.unencodable ⟨0, [0xD800]⟩) ∧
    (empty.importDraft (titled none)).1 = .error (.violation (.missing "books.title")) := by
  decide

end EpubLibrary.Store
