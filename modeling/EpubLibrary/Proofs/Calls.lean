import EpubLibrary.Proofs.Catalog.Growth
import EpubLibrary.Proofs.Scan.Order

namespace EpubLibrary

inductive Answer : Type 1 where
  | imported (reply : Except StoreError Bool)
  | scanned (reply : Except ScanError ScanSummary)
  | saved (reply : Except StoreError Unit)
  | position (reply : Except BookmarkError Position)
  | text (reply : Except Store.ReadError (Option String))
  | told {α : Type} (reply : Except StoreError α)

/-- What can be asked of a store. -/
inductive Call : Type 1 where
  | importDraft (r : RecordDraft)
  | scan (settings : ScanSettings) (cancelling : ScanLoop.Cancelling) (t : FileTree) (cwd : Place)
      (folder : Path)
  | saveBookmark (bookId chapterId : LooseText) (progress createdAt : Number)
  | setBookmark (bookId chapterId : LooseText) (progress now : Number)
  | deleteBookmark (bookId : LooseText)
  | readChapter (id : LooseText)
  /-- any other question about the rows -/
  | ask {α : Type} (question : Tables → Except StoreError α)

namespace Call

def run (s : Store) : Call → Answer × Store
  | .importDraft r => (s.importDraft r).map .imported id
  | .scan settings cancelling t cwd folder =>
    (EpubLibrary.scan settings cancelling s t cwd folder).map .scanned id
  | .saveBookmark bookId chapterId progress createdAt =>
    (s.saveBookmark bookId chapterId progress createdAt).map .saved id
  | .setBookmark bookId chapterId progress now =>
    (s.setBookmark bookId chapterId progress now).map .position id
  | .deleteBookmark bookId => (s.deleteBookmark bookId).map .saved id
  | .readChapter id => (.text (s.readChapter id), s)
  | .ask question => (.told (s.query question), s)

end Call

namespace Store

def runAll (s : Store) : List Call → List Answer × Store
  | [] => ([], s)
  | call :: calls => ((call.run s).1 :: (runAll (call.run s).2 calls).1,
      (runAll (call.run s).2 calls).2)

theorem runAll_append (s : Store) (before after : List Call) :
    s.runAll (before ++ after) = ((s.runAll before).1 ++ ((s.runAll before).2.runAll after).1,
      ((s.runAll before).2.runAll after).2) := by
  induction before generalizing s with
  | nil => rfl
  | cons call before ih =>
    rw [List.cons_append, runAll, ih]
    rfl

/-! ## Where calls lead -/

/-- The second store is what some import into the first has left. -/
def Imports (s s' : Store) : Prop := ∃ r, s' = (s.importBook r).2

theorem Imports.change {s s' : Store} (h : s.Imports s') : s.Change s' := by
  obtain ⟨r, rfl⟩ := h
  exact .importDraft s r.draft

end Store

namespace ScanLoop

variable {settings : ScanSettings} {l m : ScanLoop}

theorem collectAt_imports (l : ScanLoop) (i : Nat) :
    Relation.ReflTransGen Store.Imports l.store (l.collectAt i).2.store := by
  cases at_i : l.ready[i]? with
  | none => rw [collectAt_none at_i]
  | some x =>
    obtain ⟨f, prepared⟩ := x
    rw [collectAt_eq at_i]
    cases prepared with
    | unchanged => exact .refl
    | failed cause => exact .refl
    | record r =>
      refine .single ⟨r, ?_⟩
      simp only [judge, commit]
      split <;> rfl

/-- A scan does nothing to a store but import, whatever the order of its steps. -/
theorem steps_imports (steps : Steps settings l m) :
    Relation.ReflTransGen Store.Imports l.store m.store := by
  induction steps with
  | refl => exact .refl
  | tail _ step ih =>
    cases step with
    | take room left => exact ih
    | prepare taken =>
      rw [prepareAt_eq settings (List.getElem?_eq_getElem taken)]
      exact ih
    | collect prepared fine => exact ih.trans (collectAt_imports _ _)

theorem run_imports (settings : ScanSettings) (cancelling : Cancelling) (running : l.running = [])
    (ready : l.ready = []) :
    Relation.ReflTransGen Store.Imports l.store (l.run settings cancelling).2.store := by
  obtain ⟨k, steps, ⟨i, collect, _⟩ | ⟨ended, _⟩⟩ := run_steps settings cancelling running ready
  · rw [← collect]
    exact (steps_imports steps).trans (collectAt_imports k i)
  · rw [ended]
    exact steps_imports steps

end ScanLoop

namespace Store

/-- A scan does what some imports do, however it ends. -/
theorem scan_imports (s : Store) (settings : ScanSettings) (cancelling : ScanLoop.Cancelling)
    (t : FileTree) (cwd : Place) (folder : Path) :
    Relation.ReflTransGen Imports s (scan settings cancelling s t cwd folder).2 := by
  unfold scan
  split
  · exact .refl
  · rename_i snapshot _
    have imports (files : List Source) : Relation.ReflTransGen Imports s
        ((ScanLoop.start snapshot s files).run settings cancelling).2.store :=
      ScanLoop.run_imports (l := .start snapshot s files) settings cancelling rfl rfl
    dsimp only
    split
    · unfold scanBroken
      dsimp only
      split
      · rename_i ends
        exact congrArg (·.2.store) ends ▸ imports _
      · rename_i ends
        exact congrArg (·.2.store) ends ▸ imports _
    · unfold scanSources
      split
      · rename_i ends
        exact congrArg (·.2.store) ends ▸ imports _
      · rename_i ends
        exact congrArg (·.2.store) ends ▸ imports _

/-- Every call is made of changes; a scan makes several. -/
theorem run_reaches (s : Store) (call : Call) : Relation.ReflTransGen Change s (call.run s).2 := by
  cases call with
  | importDraft r => exact .single (.importDraft s r)
  | scan settings cancelling t cwd folder =>
    exact Relation.ReflTransGen.mono (fun _ _ => Imports.change) s _
      (s.scan_imports settings cancelling t cwd folder)
  | saveBookmark bookId chapterId progress createdAt => exact .single (.saveBookmark s _ _ _ _)
  | setBookmark bookId chapterId progress now => exact .single (.setBookmark s _ _ _ _)
  | deleteBookmark bookId => exact .single (.deleteBookmark s bookId)
  | readChapter id => exact .refl
  | ask question => exact .refl

/-- Calls lead to no other stores than changes do. -/
theorem runAll_reaches (s : Store) (calls : List Call) :
    Relation.ReflTransGen Change s (s.runAll calls).2 := by
  induction calls generalizing s with
  | nil => exact .refl
  | cons call calls ih => exact (s.run_reaches call).trans (ih (call.run s).2)

/-- Whatever is asked of a store that was empty, in any order and with any answers: identifiers,
digests and places do not repeat, a book has one bookmark at most, and what rows refer to is
there. -/
theorem rules_kept (calls : List Call) : (empty.runAll calls).2.tables.Valid := by
  have reach : (empty.runAll calls).2.Reachable := empty.runAll_reaches calls
  exact reach.sound.valid

end Store
end EpubLibrary
