import EpubLibrary.Proofs.Number.Value
import EpubLibrary.Proofs.ReadBack
import Mathlib.Logic.Function.Basic

/-!
# Bookmarks as a map

`Store.Marked` follows a library together with the last position that was set for each book and
not cleared since. The rows of the bookmarks are those positions, one row a book.
-/

namespace EpubLibrary

/-- A position that was set in a chapter, and the time when it was. -/
structure Mark where
  chapterId : String
  progress : Number
  setAt : Binary64

abbrev Marks := String → Option Mark

def BookmarkError.isInvalid : BookmarkError → Bool
  | .outside _ => true
  | .noBook _ => true
  | .notInBook .. => true
  | .untold => false
  | .store _ => false

/-- What a bookmark tells of a mark: its chapter, the value of its progress, and its time without a
sign on zero. -/
def Mark.told (mark : Mark) : String × Option ℚ × Binary64 :=
  (mark.chapterId, mark.progress.value?, mark.setAt.unsignZero)

def Bookmark.told (m : Bookmark) : String × Option ℚ × Binary64 :=
  (m.chapterId, m.progress.value?, m.createdAt)

theorem Binary64.unsignZero_ne_nan {x : Binary64} (h : x ≠ .nan) : x.unsignZero ≠ .nan := by
  unfold unsignZero
  split
  · exact Binary64.noConfusion
  · exact h

/-! ## Rows -/

namespace Tables

/-- The bookmarks are those of the marks, one row for each book that has one. -/
structure Shows (t : Tables) (marks : Marks) : Prop where
  row : ∀ m ∈ t.bookmarks, ∃ mark, marks m.bookId = some mark ∧ m.told = mark.told ∧
    mark.setAt ≠ .nan
  all : ∀ bookId mark, marks bookId = some mark → ∃ m ∈ t.bookmarks, m.bookId = bookId
  once : (t.bookmarks.map (·.bookId)).Nodup

theorem shows_empty : empty.Shows fun _ => none := by
  constructor <;> simp [empty]

variable {t t' : Tables} {marks : Marks}

theorem Shows.of_bookmarks (h : t.Shows marks) (same : t'.bookmarks = t.bookmarks) :
    t'.Shows marks := by
  obtain ⟨row, all, once⟩ := h
  rw [← same] at row all once
  exact ⟨row, all, once⟩

theorem Shows.others (h : t.Shows marks) (bookId : String) :
    ((t.bookmarks.filter (·.bookId ≠ bookId)).map (·.bookId)).Nodup :=
  h.once.sublist (List.filter_sublist.map _)

theorem Shows.delete (h : t.Shows marks) (bookId : String) :
    (t.deleteBookmark bookId).Shows (Function.update marks bookId none) where
  row := by
    intro m hm
    obtain ⟨old, other⟩ := List.mem_filter.1 hm
    rw [Function.update_of_ne (of_decide_eq_true other)]
    exact h.row m old
  all := by
    intro id mark marked
    by_cases same : id = bookId
    · rw [same, Function.update_self] at marked
      cases marked
    · rw [Function.update_of_ne same] at marked
      obtain ⟨m, hm, own⟩ := h.all id mark marked
      exact ⟨m, List.mem_filter.2 ⟨hm, by simpa [own] using same⟩, own⟩
  once := h.others bookId

theorem Shows.put (h : t.Shows marks) {bookId chapterId : String} {progress : Number}
    (fraction : progress.isFraction = true) {now : Binary64} (told : now ≠ .nan)
    (put : t.putBookmark bookId chapterId (progress.toBinary?.getD .nan) now = .ok t') :
    t'.Shows (Function.update marks bookId (some ⟨chapterId, progress, now⟩)) := by
  obtain ⟨_, _, _, _, rfl⟩ := putBookmark_ok_iff.1 put
  constructor
  · intro m hm
    rcases List.mem_append.1 hm with old | new
    · obtain ⟨old, other⟩ := List.mem_filter.1 old
      rw [Function.update_of_ne (of_decide_eq_true other)]
      exact h.row m old
    · rw [List.mem_singleton.1 new]
      refine ⟨⟨chapterId, progress, now⟩, Function.update_self .., ?_, told⟩
      rw [Bookmark.told, Mark.told, Number.value?_stored fraction]
  · intro id mark marked
    by_cases same : id = bookId
    · exact ⟨_, List.mem_append_right _ (List.mem_singleton_self _), same.symm⟩
    · rw [Function.update_of_ne same] at marked
      obtain ⟨m, hm, own⟩ := h.all id mark marked
      have kept : m ∈ t.bookmarks.filter (·.bookId ≠ bookId) :=
        List.mem_filter.2 ⟨hm, by simpa [own] using same⟩
      exact ⟨m, List.mem_append_left _ kept, own⟩
  · exact (nodup_map_concat (h.others bookId) _).2 (by simp)

theorem Shows.bookmark?_iff (h : t.Shows marks) {bookId : String} {m : Bookmark} :
    t.bookmark? bookId = some m ↔ m ∈ t.bookmarks ∧ m.bookId = bookId := by
  rw [bookmark?, find?_iff_of_unique, decide_eq_true_eq]
  intro a ha b hb own own'
  rw [decide_eq_true_eq] at own own'
  exact List.inj_on_of_nodup_map h.once ha hb (own.trans own'.symm)

/-- The bookmark of a book tells its mark. -/
theorem Shows.bookmark? (h : t.Shows marks) (bookId : String) :
    (t.bookmark? bookId).map (·.told) = (marks bookId).map (·.told) := by
  cases found : t.bookmark? bookId with
  | some m =>
    obtain ⟨hm, own⟩ := h.bookmark?_iff.1 found
    obtain ⟨mark, marked, told, _⟩ := h.row m hm
    rw [own] at marked
    rw [marked, Option.map_some, Option.map_some, told]
  | none =>
    cases marked : marks bookId with
    | none => rfl
    | some mark =>
      obtain ⟨m, hm, own⟩ := h.all bookId mark marked
      rw [h.bookmark?_iff.2 ⟨hm, own⟩] at found
      cases found

/-- A book has one row if it has a mark, and none if it has none. -/
theorem Shows.count (h : t.Shows marks) (bookId : String) :
    (t.bookmarks.map (·.bookId)).count bookId = if (marks bookId).isSome then 1 else 0 := by
  cases marked : marks bookId with
  | some mark =>
    obtain ⟨m, hm, own⟩ := h.all bookId mark marked
    exact List.count_eq_one_of_mem h.once (List.mem_map.2 ⟨m, hm, own⟩)
  | none =>
    refine List.count_eq_zero.2 fun mem => ?_
    obtain ⟨m, hm, rfl⟩ := List.mem_map.1 mem
    obtain ⟨mark, some, _⟩ := h.row m hm
    rw [marked] at some
    cases some

end Tables

/-- Sorting by a test that is a linear order on the elements sorts by that order. -/
theorem pairwise_mergeSort_of_key {α β : Type} [LinearOrder β] (key : α → β) {le : α → α → Bool}
    {l : List α} (agree : ∀ a ∈ l, ∀ b ∈ l, le a b = decide (key a ≤ key b)) :
    (l.mergeSort le).Pairwise fun a b => key a ≤ key b := by
  have mapped : (l.mergeSort le).map id = (l.map id).mergeSort fun a b => decide (key a ≤ key b) :=
    List.map_mergeSort agree
  have sorted : (l.mergeSort fun a b => decide (key a ≤ key b)).Pairwise
      fun a b => decide (key a ≤ key b) = true :=
    List.pairwise_mergeSort
      (fun a b c ab bc => by simpa using le_trans (of_decide_eq_true ab) (of_decide_eq_true bc))
      (fun a b => by simpa using le_total (key a) (key b)) l
  rw [List.map_id, List.map_id] at mapped
  rw [mapped]
  exact sorted.imp of_decide_eq_true

/-- The bookmarks are listed latest first. -/
theorem Tables.Shows.listed {t : Tables} {marks : Marks} (h : t.Shows marks) :
    t.listBookmarks.Pairwise fun a b => b.createdAt.le a.createdAt = true := by
  have timed (m : Bookmark) (hm : m ∈ t.bookmarks) : m.createdAt ≠ .nan := by
    obtain ⟨mark, _, told, time⟩ := h.row m hm
    have same : m.createdAt = mark.setAt.unsignZero := congrArg (·.2.2) told
    rw [same]
    exact Binary64.unsignZero_ne_nan time
  have agree (a : Bookmark) (ha : a ∈ t.bookmarks) (b : Bookmark) (hb : b ∈ t.bookmarks) :
      b.createdAt.le a.createdAt =
        decide (OrderDual.toDual a.createdAt.rank ≤ OrderDual.toDual b.createdAt.rank) := by
    rw [Bool.eq_iff_iff, Binary64.le_iff_rank (timed b hb) (timed a ha), decide_eq_true_eq,
      OrderDual.toDual_le_toDual]
  have ranked :=
    pairwise_mergeSort_of_key (fun m : Bookmark => OrderDual.toDual m.createdAt.rank) agree
  refine ranked.imp_of_mem fun {a b} ha hb le => ?_
  have mem (m : Bookmark) (hm : m ∈ t.listBookmarks) : m ∈ t.bookmarks :=
    (List.mergeSort_perm _ _).subset hm
  exact (Binary64.le_iff_rank (timed b (mem b hb)) (timed a (mem a ha))).2 le

namespace Store

/-! ## Setting -/

structure HasPosition (s : Store) (bookId chapterId : String) (progress : Number) : Prop where
  fraction : ∃ q, progress.value? = some q ∧ 0 ≤ q ∧ q ≤ 1
  book : ∃ b ∈ s.tables.books, b.id = some bookId
  chapter : ∃ c ∈ s.tables.chapters, c.id = some chapterId ∧ c.bookId = bookId

theorem hasPosition_iff {s : Store} (sound : s.Sound) {bookId chapterId : String}
    {progress : Number} {u : Unit} : s.HasPosition bookId chapterId progress ↔
      s.checkPosition bookId chapterId progress = .ok u := by
  rw [checkPosition_text_iff sound.isOpen, Number.isFraction_iff_value]
  constructor
  · rintro ⟨fraction, ⟨b, hb, id⟩, c, hc, own, book⟩
    exact ⟨fraction, List.mem_map.2 ⟨b, hb, id⟩, c, sound.valid.chapterById?_iff.2 ⟨hc, own⟩, book⟩
  · rintro ⟨fraction, book, c, found, own⟩
    obtain ⟨b, hb, id⟩ := List.mem_map.1 book
    obtain ⟨hc, chapter⟩ := sound.valid.chapterById?_iff.1 found
    exact ⟨fraction, ⟨b, hb, id⟩, c, hc, chapter, own⟩

/-- A position that can be told is refused for being none in the book. -/
theorem isInvalid_of_check {s : Store} (isOpen : s.isOpen = true) {bookId chapterId : String}
    {progress : Number} (writable : progress.isWritable = true) {e : BookmarkError}
    (check : s.checkPosition bookId chapterId progress = .error e) : e.isInvalid = true := by
  simp only [checkPosition, lookBy_open isOpen, writable, if_true, Except.mapError] at check
  cases fraction : progress.isFraction with
  | false =>
    rw [fraction] at check
    cases check
    rfl
  | true =>
    cases book : (s.tables.book? (some bookId)).isSome with
    | false =>
      simp only [fraction, book, demand, bind, Except.bind, if_true] at check
      cases check
      rfl
    | true =>
      simp only [fraction, book, demand, bind, Except.bind, if_true] at check
      split at check <;> cases check
      rfl

/-- Only plain texts are accepted, since others cannot be looked up. -/
theorem texts_of_accepted {s t : Store} (isOpen : s.isOpen = true)
    {bookId chapterId : LooseText} {progress now : Number} {answer : Position}
    (accepted : s.setBookmark bookId chapterId progress now = (.ok answer, t)) :
    ∃ b c : String, bookId = b ∧ chapterId = c := by
  cases check : s.checkPosition bookId chapterId progress with
  | error e =>
    rw [setBookmark_refused check] at accepted
    cases accepted
  | ok u =>
    obtain ⟨_, b, c, rfl, rfl, _⟩ := (checkPosition_ok_iff isOpen).1 check
    exact ⟨b, c, rfl, rfl⟩

/-- A position within a stored chapter of the book is set. -/
theorem setBookmark_accepts {s : Store} (sound : s.Sound) {bookId chapterId : String}
    {progress : Number} (position : s.HasPosition bookId chapterId progress) {now : Binary64}
    (told : now ≠ .nan) :
    ∃ answer t, s.setBookmark bookId chapterId progress (.binary now) = (.ok answer, t) := by
  obtain ⟨_, _, t, _, _, _, eq⟩ := setBookmark_checked sound.isOpen (u := ())
    ((hasPosition_iff sound).1 position) told
  exact ⟨_, _, eq⟩

/-- Any other position is called invalid, and nothing changes. -/
theorem setBookmark_refuses {s : Store} (sound : s.Sound) {bookId chapterId : String}
    {progress : Number} (none : ¬ s.HasPosition bookId chapterId progress)
    (writable : progress.isWritable = true) (now : Number) :
    ∃ e, s.setBookmark bookId chapterId progress now = (.error e, s) ∧ e.isInvalid = true := by
  cases check : s.checkPosition bookId chapterId progress with
  | ok u => exact absurd ((hasPosition_iff sound).2 check) none
  | error e =>
    exact ⟨e, setBookmark_refused check now, isInvalid_of_check sound.isOpen writable check⟩

/-! ## Marks -/

/-- A library and its marks: what was last set for a book, unless it was cleared since. A position
that is refused is none that was set. -/
inductive Marked : Store → Marks → Prop where
  | start : Marked .empty fun _ => none
  | importDerived {s : Store} {marks : Marks} (before : Marked s marks) {x : Epub.ExtractedBook}
      {digest : String} {root : Uuid} {level : Int} {r : BookRecord}
      (derived : BookRecord.derive x digest root level = .ok r) : Marked (s.importBook r).2 marks
  | scan {s : Store} {marks : Marks} (before : Marked s marks) {settings : ScanSettings}
      {held : DigestSet} {files : List Source} {l : ScanLoop}
      (steps : ScanLoop.Steps settings (.start held s files) l) : Marked l.store marks
  | set {s t : Store} {marks : Marks} (before : Marked s marks) {bookId chapterId : String}
      {progress : Number} {now : Binary64} {answer : Position} (told : now ≠ .nan)
      (accepted : s.setBookmark bookId chapterId progress (.binary now) = (.ok answer, t)) :
      Marked t (Function.update marks bookId (some ⟨chapterId, progress, now⟩))
  | refused {s t : Store} {marks : Marks} (before : Marked s marks) {bookId chapterId : LooseText}
      {progress : Number} {now : Binary64} {e : BookmarkError} (told : now ≠ .nan)
      (refused : s.setBookmark bookId chapterId progress (.binary now) = (.error e, t)) :
      Marked t marks
  | clear {s : Store} {marks : Marks} (before : Marked s marks) (bookId : String) :
      Marked (s.deleteBookmark bookId).2 (Function.update marks bookId none)

theorem Marked.history {s : Store} {marks : Marks} (h : Marked s marks) : History .empty s := by
  induction h with
  | start => exact .refl
  | @importDerived s marks before x digest root level r derived ih =>
    exact ih.tail (.importDerived s derived)
  | @scan s marks before settings held files l steps ih => exact ih.tail (.scan s steps)
  | @set s t marks before bookId chapterId progress now answer told accepted ih =>
    have use := Use.setBookmark s bookId chapterId progress told
    rw [accepted] at use
    exact ih.tail use
  | @refused s t marks before bookId chapterId progress now e told refused ih =>
    have use := Use.setBookmark s bookId chapterId progress told
    rw [refused] at use
    exact ih.tail use
  | @clear s marks before bookId ih => exact ih.tail (.clearBookmark s bookId)

/-- Every history has its marks. -/
theorem exists_marked {s : Store} (history : History .empty s) : ∃ marks, Marked s marks := by
  induction history with
  | refl => exact ⟨_, .start⟩
  | @tail s t before use ih =>
    obtain ⟨marks, marked⟩ := ih
    cases use with
    | importDerived derived => exact ⟨marks, .importDerived marked derived⟩
    | scan steps => exact ⟨marks, .scan marked steps⟩
    | @setBookmark bookId chapterId progress now told =>
      cases answered : s.setBookmark bookId chapterId progress (.binary now) with
      | mk answer t =>
        cases answer with
        | ok answer =>
          obtain ⟨b, c, rfl, rfl⟩ :=
            texts_of_accepted (History.idle before idle_empty).isOpen answered
          exact ⟨_, .set marked told answered⟩
        | error e => exact ⟨marks, .refused marked told answered⟩
    | clearBookmark bookId => exact ⟨_, .clear marked bookId⟩

theorem Marked.idle {s : Store} {marks : Marks} (h : Marked s marks) : s.Idle :=
  h.history.idle idle_empty

/-- An import leaves the bookmarks as they are, whatever it answers. -/
theorem bookmarks_importBook {s : Store} (sound : s.Sound) (r : BookRecord) :
    (s.importBook r).2.tables.bookmarks = s.tables.bookmarks := by
  rcases importBook_cases sound r with kept | ⟨added, _⟩
  · rw [kept]
  · rw [added, plusAll, Tables.bookmarks_plusAll]

/-- The bookmarks of a library are its marks. -/
theorem Marked.shows {s : Store} {marks : Marks} (h : Marked s marks) : s.tables.Shows marks := by
  induction h with
  | start => exact Tables.shows_empty
  | @importDerived s marks before x digest root level r derived ih =>
    exact ih.of_bookmarks (bookmarks_importBook before.idle.toSound r)
  | @scan s marks before settings held files l steps ih =>
    obtain ⟨past, ledger⟩ := ScanLoop.steps_ledger steps
    have grown := (ledger.replay.grows before.idle.toSound).2
    refine ih.of_bookmarks ?_
    rw [grown, plusAll, Tables.bookmarks_plusAll]
  | @set s t marks before bookId chapterId progress now answer told accepted ih =>
    have isOpen := before.idle.isOpen
    cases check : s.checkPosition bookId chapterId progress with
    | error e =>
      rw [setBookmark_refused check] at accepted
      cases accepted
    | ok u =>
      obtain ⟨_, _, t', ⟨⟩, ⟨⟩, put, eq⟩ := setBookmark_checked isOpen check told
      rw [eq] at accepted
      cases accepted
      exact ih.put ((checkPosition_text_iff isOpen).1 check).1 told put
  | @refused s t marks before bookId chapterId progress now e told refused ih =>
    cases check : s.checkPosition bookId chapterId progress with
    | error e' =>
      rw [setBookmark_refused check] at refused
      cases refused
      exact ih
    | ok u =>
      obtain ⟨_, _, t', _, _, _, eq⟩ := setBookmark_checked before.idle.isOpen check told
      rw [eq] at refused
      cases refused
  | @clear s marks before bookId ih =>
    have deleted : (s.deleteBookmark bookId).2.tables = s.tables.deleteBookmark bookId := by
      simp [deleteBookmark, before.idle.isOpen]
    rw [deleted]
    exact ih.delete bookId

/-- A position is set exactly if it is one in the book, and else refused without a trace, as it is
under identifiers that are no texts. The bookmark of a book is what was last set for it and not
cleared since, whatever was done with other books. There is one row for each such book, and the rows
are listed latest first. -/
theorem bookmarks_refine_marks {s : Store} {marks : Marks} (marked : Marked s marks) :
    (∀ (bookId chapterId : String) progress now, progress.isWritable = true → now ≠ .nan →
      (s.HasPosition bookId chapterId progress → ∃ answer t,
        s.setBookmark bookId chapterId progress (.binary now) = (.ok answer, t)) ∧
      (¬ s.HasPosition bookId chapterId progress → ∃ e,
        s.setBookmark bookId chapterId progress (.binary now) = (.error e, s) ∧
          e.isInvalid = true)) ∧
    (∀ (bookId chapterId : LooseText) progress now,
      (¬ ∃ b c : String, bookId = b ∧ chapterId = c) →
        ∃ e, s.setBookmark bookId chapterId progress now = (.error e, s)) ∧
    (∀ bookId, ∃ found, s.look (·.bookmark? bookId) = .ok found ∧
      found.map (·.told) = (marks bookId).map (·.told)) ∧
    (∀ bookId, (s.tables.bookmarks.map (·.bookId)).count bookId =
      if (marks bookId).isSome then 1 else 0) ∧
    ∃ listed, s.look (·.listBookmarks) = .ok listed ∧ listed.Perm s.tables.bookmarks ∧
      listed.Pairwise fun a b => b.createdAt.le a.createdAt = true := by
  have sound := marked.idle.toSound
  have shows := marked.shows
  refine ⟨fun bookId chapterId progress now writable told => ⟨?_, ?_⟩,
    fun bookId chapterId progress now loose => ?_, fun bookId => ?_, shows.count, ?_⟩
  · intro position
    exact setBookmark_accepts sound position told
  · intro none
    exact setBookmark_refuses sound none writable (.binary now)
  · cases check : s.checkPosition bookId chapterId progress with
    | error e => exact ⟨e, setBookmark_refused check now⟩
    | ok u =>
      obtain ⟨_, b, c, hb, hc, _⟩ := (checkPosition_ok_iff sound.isOpen).1 check
      exact absurd ⟨b, c, hb, hc⟩ loose
  · exact ⟨_, look_open sound.isOpen _, shows.bookmark? bookId⟩
  · exact ⟨_, look_open sound.isOpen _, List.mergeSort_perm _ _, shows.listed⟩

/-- A library of one page: it has the middle of that page. -/
theorem marked_onePage : ∃ (r : BookRecord) (s : Store) (chapterId : String),
    BookRecord.derive onePage "ab" Config.defaultRoot 19 = .ok r ∧
      empty.importBook r = (.ok true, s) ∧ Marked s (fun _ => none) ∧
      s.HasPosition (Identity.book Config.defaultRoot "ab").toText chapterId
        (.binary (.finite false 0x10000000000000 (-53))) := by
  obtain ⟨r, made⟩ : ∃ r, BookRecord.derive onePage "ab" Config.defaultRoot 19 = .ok r :=
    exists_derive "ab" Config.defaultRoot (by decide) (by decide)
  have derived := derived_of_ok made
  have added := importBook_fresh idle_empty.toSound rfl derived.shaped (fresh_onePage made)
    (derived.countable holdable_onePage)
  have imported := Marked.importDerived .start made
  rw [added] at imported
  have chapters : r.chapters = [.derived (Identity.book Config.defaultRoot "ab") "<p>a</p>" 0] :=
    derived.chapters
  refine ⟨r, _, (Identity.chapter (Identity.book Config.defaultRoot "ab") 0
    (Bytes.ofText "<p>a</p>")).toText, made, added, imported, ⟨1 / 2, ?_, by norm_num, by norm_num⟩,
    ⟨r.book, ?_, ?_⟩, .derived (Identity.book Config.defaultRoot "ab") "<p>a</p>" 0, ?_, ?_, ?_⟩
  · norm_num [Number.value?, Binary64.value?, Binary64.signed]
  · exact List.mem_singleton_self _
  · rw [derived.book]
  · rw [plusAll, Tables.chapters_plusAll, List.flatMap_singleton, chapters]
    exact List.mem_singleton_self _
  · rw [Chapter.derived]
    rfl
  · rw [Chapter.derived]

/-- The bookmark in the middle of the only page of a library. -/
theorem bookmarks_refine_marks_onePage : ∃ (r : BookRecord) (s : Store) (chapterId : String)
    (answer : Position) (t : Store),
    BookRecord.derive onePage "ab" Config.defaultRoot 19 = .ok r ∧
      empty.importBook r = (.ok true, s) ∧
      s.setBookmark (Identity.book Config.defaultRoot "ab").toText chapterId
        (.binary (.finite false 0x10000000000000 (-53))) (.binary (.zero false)) =
          (.ok answer, t) ∧
      ∃ found, t.look (·.bookmark? (Identity.book Config.defaultRoot "ab").toText) = .ok found ∧
        found.map (·.told) = some (chapterId, some (1 / 2), .zero false) := by
  obtain ⟨r, s, chapterId, made, added, marked, position⟩ := marked_onePage
  have told : Binary64.zero false ≠ .nan := by decide
  obtain ⟨answer, t, set⟩ :=
    ((bookmarks_refine_marks marked).1 _ _ _ _ (by decide) told).1 position
  obtain ⟨found, looked, same⟩ :=
    (bookmarks_refine_marks (.set marked told set)).2.2.1
      (Identity.book Config.defaultRoot "ab").toText
  have half : (Number.binary (.finite false 0x10000000000000 (-53))).value? = some (1 / 2) := by
    norm_num [Number.value?, Binary64.value?, Binary64.signed]
  rw [Function.update_self] at same
  refine ⟨r, s, chapterId, answer, t, made, added, set, found, looked, ?_⟩
  rw [same, Option.map_some, Mark.told, half]
  rfl

/-- A position in the book is not set at a time that is no number, and a book whose identifier is no
text is not told to be missing. -/
theorem bookmark_not_set : (∃ (r : BookRecord) (s : Store) (chapterId : String),
    BookRecord.derive onePage "ab" Config.defaultRoot 19 = .ok r ∧
      empty.importBook r = (.ok true, s) ∧
      s.HasPosition (Identity.book Config.defaultRoot "ab").toText chapterId
        (.binary (.finite false 0x10000000000000 (-53))) ∧
      (s.setBookmark (Identity.book Config.defaultRoot "ab").toText chapterId
        (.binary (.finite false 0x10000000000000 (-53))) (.binary .nan)).1 =
          .error (.store (.violation (.missing "bookmarks.created_at")))) ∧
    (empty.setBookmark (.stray "" 0 []) "c" (.integer 0) (.integer 0)).1 =
      .error (.store (.unencodable ⟨0, [0xD800]⟩)) := by
  refine ⟨?_, by decide⟩
  obtain ⟨r, s, chapterId, made, added, marked, position⟩ := marked_onePage
  have isOpen := marked.idle.isOpen
  have check := (hasPosition_iff marked.idle.toSound (u := ())).1 position
  refine ⟨r, s, chapterId, made, added, position, ?_⟩
  rw [setBookmark, check]
  simp only [saveBookmark, isOpen, Cell.text_text, bind, Except.bind, storedNumber]
  rfl

end Store
end EpubLibrary
