import EpubLibrary.Catalog.Reconcile
import EpubLibrary.Catalog.Store
import EpubLibrary.Files.Walk
import EpubLibrary.Scan.Summary
import EpubLibrary.Settings.Config

/-!
# Scanning a library

A scan takes walked files in flight, prepares them and collects what they give. `ScanLoop.fill`,
`prepareAt` and `collectAt` are its steps; preparing and collecting may go in any order. Preparing a
file claims its digest; only the owner of a new digest is extracted. Collecting stores its record,
and is the only step that writes. `ScanLoop.run` goes on round by round until no file is left.
`scan` does so for the files below a folder, and then lists the books that were not found. A walk
that fails ends it.
-/

namespace EpubLibrary

/-- A walked file: its path, and its content or why it has none. -/
structure Source where
  path : Path
  content : Except FileError Bytes

/-- What preparing a file gives. -/
inductive Prepared where
  | unchanged
  | record (r : BookRecord)
  | failed (cause : FailureCause)
  deriving DecidableEq

/-- The record of an archive. -/
def recordOf (settings : ScanSettings) (bytes : Bytes) : Except FailureCause BookRecord := do
  let extracted ← (Epub.ExtractedBook.read bytes).mapError .extract
  (BookRecord.derive extracted (contentDigest bytes) settings.root
    settings.compressionLevel).mapError .derive

/-- Prepares a file: content that is claimed for the first time gives a record or a failure. -/
def Source.prepare (settings : ScanSettings) (s : Source) (r : Reconciler) :
    Prepared × Reconciler :=
  match s.content with
  | .error e => (.failed (.unreadable e), r)
  | .ok bytes =>
    match r.claim (contentDigest bytes) with
    | (.unchanged, r) => (.unchanged, r)
    | (.new, r) =>
      match recordOf settings bytes with
      | .ok record => (.record record, r)
      | .error cause => (.failed cause, r)

/-- A scan under way. -/
structure ScanLoop where
  /-- walked, and not yet taken -/
  waiting : List Source
  /-- taken, and not yet prepared -/
  running : List Source
  /-- prepared, and not yet collected -/
  ready : List (Source × Prepared)
  reconciler : Reconciler
  store : Store
  /-- how often a record was handed to the store -/
  imports : Nat
  summary : ScanSummary

namespace ScanLoop

def start (snapshot : DigestSet) (store : Store) (sources : List Source) : ScanLoop :=
  ⟨sources, [], [], .start snapshot, store, 0, .empty⟩

/-- How many files are taken and not yet collected. -/
def inFlight (l : ScanLoop) : Nat := l.running.length + l.ready.length

/-- Takes files as long as fewer than the limit are in flight. -/
def fill (limit : Nat) (l : ScanLoop) : ScanLoop :=
  let room := limit - l.inFlight
  { l with waiting := l.waiting.drop room, running := l.running ++ l.waiting.take room }

/-- Prepares one of the files taken. -/
def prepareAt (settings : ScanSettings) (i : Nat) (l : ScanLoop) : ScanLoop :=
  match l.running[i]? with
  | none => l
  | some source =>
    let (prepared, r) := source.prepare settings l.reconciler
    { l with running := l.running.eraseIdx i, ready := l.ready ++ [(source, prepared)]
             reconciler := r }

/-- Notes a failure. -/
def fail (l : ScanLoop) (path : Path) (cause : FailureCause) : ScanLoop :=
  { l with summary := { l.summary with failed := l.summary.failed ++ [⟨path, cause⟩] } }

/-- Notes a file whose content is there already. -/
def keep (l : ScanLoop) : ScanLoop :=
  { l with summary := { l.summary with unchanged := l.summary.unchanged + 1 } }

/-- Stores a record and notes what came of it. A store that cannot be used ends the scan. -/
def commit (l : ScanLoop) (path : Path) (r : BookRecord) : Option StoreError × ScanLoop :=
  let (answer, store) := l.store.importBook r
  let l := { l with store := store, imports := l.imports + 1 }
  match answer with
  | .ok true =>
    (none, { l with summary := { l.summary with imported := l.summary.imported ++ [r.book] } })
  | .ok false => (none, l.keep)
  | .error (.collision c) => (none, l.fail path (.collision c (Epub.declared r.book.identifier)))
  | .error e => (some e, l)

/-- Collects one of the files prepared. -/
def collectAt (i : Nat) (l : ScanLoop) : Option StoreError × ScanLoop :=
  match l.ready[i]? with
  | none => (none, l)
  | some (source, prepared) =>
    let l := { l with ready := l.ready.eraseIdx i }
    match prepared with
    | .unchanged => (none, l.keep)
    | .failed cause => (none, l.fail source.path cause)
    | .record r => l.commit source.path r

/-- Prepares all files taken, in their order. -/
def prepareAll (settings : ScanSettings) : (count : Nat) → ScanLoop → ScanLoop
  | 0, l => l
  | count + 1, l => prepareAll settings count (l.prepareAt settings 0)

/-- Collects all files prepared, in their order. -/
def collectAll : (count : Nat) → ScanLoop → Option StoreError × ScanLoop
  | 0, l => (none, l)
  | count + 1, l =>
    match l.collectAt 0 with
    | (none, l) => collectAll count l
    | (some e, l) => (some e, l)

/-- When a scan is cancelled: never, or once records were handed to the store so often. -/
abbrev Cancelling := Option Nat

def isCancelled (cancelling : Cancelling) (l : ScanLoop) : Bool := cancelling.any (· ≤ l.imports)

/-- How many files may be in flight. -/
def limit (settings : ScanSettings) : Nat := 2 * settings.scanWorkers.toNat

/-- Does rounds until no file is left or the scan is cancelled. Every round takes a file. -/
def rounds (settings : ScanSettings) (cancelling : Cancelling) :
    (fuel : Nat) → ScanLoop → Option StoreError × ScanLoop
  | 0, l => (none, l)
  | fuel + 1, l =>
    if l.isCancelled cancelling || l.waiting.isEmpty then (none, l)
    else
      let l := l.fill (limit settings)
      let l := prepareAll settings l.running.length l
      match collectAll l.ready.length l with
      | (none, l) => rounds settings cancelling fuel l
      | (some e, l) => (some e, l)

def run (settings : ScanSettings) (cancelling : Cancelling) (l : ScanLoop) :
    Option StoreError × ScanLoop :=
  rounds settings cancelling (l.waiting.length + 1) l

/-- The stored books that were not found, in the order of their digests. -/
def orphans (l : ScanLoop) : List Book :=
  l.reconciler.orphaned.toList.filterMap fun d => l.store.tables.bookByHash? (some d)

/-- What a scan that has ended reports. Only a scan that saw every file knows the orphans. -/
def report (cancelling : Cancelling) (l : ScanLoop) : ScanSummary :=
  let cancelled := l.isCancelled cancelling
  { l.summary with cancelled := cancelled, orphaned := if cancelled then [] else l.orphans }

end ScanLoop

/-- Scans files against a snapshot of the stored digests. -/
def scanSources (settings : ScanSettings) (cancelling : ScanLoop.Cancelling) (snapshot : DigestSet)
    (store : Store) (sources : List Source) : Except StoreError ScanSummary × Store :=
  match (ScanLoop.start snapshot store sources).run settings cancelling with
  | (none, l) => (.ok (l.report cancelling), l.store)
  | (some e, l) => (.error e, l.store)

/-- The supported files below a folder, with their contents. -/
def sourcesBelow (t : FileTree) (cwd : Place) (folder : Path) (followLinks : Bool) : List Source :=
  ((walk t cwd folder followLinks).filterMap (·.file?)).map fun p => ⟨p, t.read cwd p⟩

/-- Why a scan has nothing to report. -/
inductive ScanError where
  | store (e : StoreError)
  /-- the walk ended before its time -/
  | walk (p : Path) (e : FileError)
  deriving DecidableEq

def ScanError.message : ScanError → String
  | .store e => e.message
  | .walk p e => e.message p

/-- Scans the files that a walk gave before it failed. The rounds that they fill are done; the
failure comes up in the next one, unless the scan is cancelled by then. -/
def scanBroken (settings : ScanSettings) (cancelling : ScanLoop.Cancelling) (snapshot : DigestSet)
    (store : Store) (sources : List Source) (p : Path) (e : FileError) :
    Except ScanError ScanSummary × Store :=
  let limit := ScanLoop.limit settings
  let whole := sources.take (sources.length / limit * limit)
  match (ScanLoop.start snapshot store whole).run settings cancelling with
  | (some e, l) => (.error (.store e), l.store)
  | (none, l) =>
    (if l.isCancelled cancelling then .ok (l.report cancelling) else .error (.walk p e), l.store)

/-- Imports every new book below a folder. -/
def scan (settings : ScanSettings) (cancelling : ScanLoop.Cancelling) (store : Store) (t : FileTree)
    (cwd : Place) (folder : Path) : Except ScanError ScanSummary × Store :=
  match store.look (·.contentHashes) with
  | .error e => (.error (.store e), store)
  | .ok snapshot =>
    let sources := sourcesBelow t cwd folder settings.followSymlinks
    match (walk t cwd folder settings.followSymlinks).findSome? (·.failure?) with
    | some (p, e) => scanBroken settings cancelling snapshot store sources p e
    | none =>
      let (answer, store) := scanSources settings cancelling snapshot store sources
      (answer.mapError .store, store)

end EpubLibrary
