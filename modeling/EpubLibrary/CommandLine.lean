import EpubLibrary.Scan.Loop

namespace EpubLibrary.CommandLine

/-- The files that a run finds, and the tables of the libraries among them. -/
structure Disk where
  tree : FileTree
  libraries : List (Place × Tables)

/-- What a run prints, and how it ends. -/
structure Outcome where
  exit : Nat
  output : List String
  errors : List String

/-- How a line of a file of variables that cannot be read is told. -/
def tellLine (line : Nat) : String :=
  "python-dotenv could not parse statement starting at line " ++ toString line

def tellFailure (f : ScanFailure) : String :=
  let identifier := ((f.cause.identifier.filter (· ≠ "")).map fun i => " [" ++ i ++ "]").getD ""
  "  failed: " ++ f.path.text ++ identifier ++ ": " ++ f.cause.reason

def tellOrphan (b : Book) : String := "  orphaned: " ++ b.title ++ " (" ++ tellId b.id ++ ")"

def tellSummary (folder : Path) (s : ScanSummary) : List String :=
  ("Scanned " ++ folder.text ++ ": " ++ s.text) ::
    (s.failed.map tellFailure ++ s.orphaned.map tellOrphan)

/-- Makes a file unless one is there. -/
def touch (t : FileTree) (cwd : Place) (p : Path) : Except FileError FileTree :=
  match t.find cwd p with
  | .ok .directory => .error .isDirectory
  | .ok _ => .ok t
  | .error _ => t.write cwd p []

/-- The tables of the library in a file. -/
def Disk.tables (d : Disk) (place : Place) : Tables := (d.libraries.lookup place).getD .empty

def Disk.keep (d : Disk) (place : Place) (tables : Tables) : Disk :=
  { d with libraries := (place, tables) :: d.libraries.filter (·.1 ≠ place) }

/-- A run that ends early. -/
def stop (d : Disk) (errors : List String) : Outcome × Disk := (⟨1, [], errors⟩, d)

/-- Scans a folder into the library that the settings name. -/
def runScan (c : Config) (cwd : Place) (folder : Path) (d : Disk) (told : List String) :
    Outcome × Disk :=
  let opened := do
    let t ← touch d.tree cwd c.databasePath
    pure (t, ← t.place cwd c.databasePath, ← t.place cwd folder)
  match opened with
  | .error e => stop d (told ++ [e.text])
  | .ok (tree, place, start) =>
    let d := { d with tree := tree }
    let store : Store := ⟨d.tables place, false, true⟩
    let (answer, store) := scan c.toScanSettings none store tree cwd ⟨1, start⟩
    let d := d.keep place store.tables
    match answer with
    | .error e => stop d (told ++ [e.message])
    | .ok summary => (⟨0, tellSummary folder summary, told⟩, d)

/-- The folder to scan: the first argument, or the one that the settings name. -/
def folder? (env : Environment) (c : Config) : List String → Option Path
  | [] => some c.libraryDir
  | first :: _ => env.expand (Path.ofString first)

/-- Runs the program. -/
def run (env : Environment) (arguments : List String) (d : Disk) : Outcome × Disk :=
  let cwd := env.cwd.parts
  let report := Config.load env d.tree none
  let told := report.unreadable.map tellLine ++ report.warnings.map (·.message)
  match report.result with
  | .error e => stop d (told ++ [e.message])
  | .ok (c, tree) =>
    match touch tree cwd c.logPath with
    | .error e => stop { d with tree := tree } (told ++ [e.text])
    | .ok tree =>
      let d := { d with tree := tree }
      match folder? env c arguments with
      | none => stop d (told ++ [ConfigError.noHome.message])
      | some folder =>
        match tree.isDirectory cwd folder with
        | .ok true => runScan c cwd folder d told
        | .ok false => stop d (told ++ ["Library directory not found: " ++ folder.text])
        | .error e => stop d (told ++ [e.message folder])

end EpubLibrary.CommandLine
