import EpubLibrary.Files.Tree
import EpubLibrary.Settings.EnvFile
import EpubLibrary.Text.IntegerLiteral
import EpubLibrary.Uuid

/-!
# Settings

A `Config` says where the library is kept and how it is scanned. The number of workers and the level
of compression always lie in their ranges. `Config.load` takes it from an environment and from the
first file of variables that exists.
-/

namespace EpubLibrary

/-- The number of a range that is nearest to a number. -/
def clamp (low high n : Int) : Int := max low (min n high)

theorem le_clamp (low high n : Int) : low ≤ clamp low high n := by
  unfold clamp
  omega

theorem clamp_le {low high : Int} (h : low ≤ high) (n : Int) : clamp low high n ≤ high := by
  unfold clamp
  omega

/-- How a library is scanned. -/
structure ScanSettings where
  /-- the root of every derived identifier -/
  root : Uuid
  scanWorkers : Int
  compressionLevel : Int
  followSymlinks : Bool
  workers_mem : 1 ≤ scanWorkers ∧ scanWorkers ≤ 32
  level_mem : 1 ≤ compressionLevel ∧ compressionLevel ≤ 22
  deriving DecidableEq

/-- Settings from any numbers: those outside their ranges become the nearest ones inside. -/
def ScanSettings.clamped (root : Uuid) (workers level : Int) (followSymlinks : Bool) :
    ScanSettings :=
  ⟨root, clamp 1 32 workers, clamp 1 22 level, followSymlinks,
    ⟨le_clamp _ _ _, clamp_le (by decide) _⟩, ⟨le_clamp _ _ _, clamp_le (by decide) _⟩⟩

structure Config extends ScanSettings where
  dataDir : Path
  configDir : Path
  libraryDir : Path
  deriving DecidableEq

/-- Why no settings can be had. -/
inductive ConfigError where
  /-- a home directory is not known -/
  | noHome
  | directory (e : FileError) (p : Path)
  /-- it cannot be told whether a file of variables is there -/
  | candidate (e : FileError) (p : Path)
  | variable (e : EnvFile.VariableError)
  /-- a file of variables cannot be read, or holds no text -/
  | failedRead (e : FileError)
  | noText
  deriving DecidableEq

def ConfigError.message : ConfigError → String
  | .noHome => "Could not determine home directory."
  | .directory e p => e.message p
  | .candidate e p => e.message p
  | .variable e => e.message
  | .failedRead e => "[Errno " ++ toString e.number ++ "] " ++ e.text
  | .noText => "..."

/-- A setting that says nothing of use. -/
inductive ConfigWarning where
  | notInteger (name value : String)
  | notUuid (name value : String)
  deriving DecidableEq

def ConfigWarning.message : ConfigWarning → String
  | .notInteger name value => "Ignoring " ++ name ++ "=" ++ Text.quoted value ++ ": not an integer"
  | .notUuid name value => "Ignoring " ++ name ++ "=" ++ Text.quoted value ++ ": not a UUID"

namespace Config

def defaultRoot : Uuid := ⟨0x6f0c3a529d1e5b7a8c442e51d0a9b3f7, by decide⟩

def defaultWorkers : Int := 4

def defaultLevel : Int := 8

def databasePath (c : Config) : Path := c.dataDir.child "ereader.db"

def logPath (c : Config) : Path := c.dataDir.child "ereader.log"

/-- Makes the directories that the settings name. -/
def makeDirectories (c : Config) (t : FileTree) (cwd : Place) : Except ConfigError FileTree := do
  let t ← (t.makeDirectories cwd c.dataDir).mapError fun (e, p) => .directory e p
  (t.makeDirectories cwd c.configDir).mapError fun (e, p) => .directory e p

/-! ## Values of settings -/

/-- The value of a setting that is there and not empty. -/
def given? (env : Environment) (name : String) : Option String := (env.get? name).filter (· ≠ "")

def readInteger (env : Environment) (name : String) (default : Int) : Int × List ConfigWarning :=
  match given? env name with
  | none => (default, [])
  | some value =>
    match Text.readInteger? 10 value.toList with
    | some n => (n, [])
    | none => (default, [.notInteger name value])

/-- Is the value one of the words for yes? -/
def isYes (value : String) : Bool :=
  ["1", "true", "yes", "on"].contains (String.ofList ((Text.strip value.toList).map Char.toLower))

def readFlag (env : Environment) (name : String) (default : Bool) : Bool :=
  ((given? env name).map isYes).getD default

def readRoot (env : Environment) : Uuid × List ConfigWarning :=
  match given? env "EREADER_NAMESPACE" with
  | none => (defaultRoot, [])
  | some value =>
    match Uuid.parse value with
    | .ok root => (root, [])
    | .error _ => (defaultRoot, [.notUuid "EREADER_NAMESPACE" value])

/-- The directory that a variable names, or else one below the home directory. -/
def baseDir (env : Environment) (name : String) (home : Path) (below : String) : Path :=
  ((env.get? name).map Path.ofString).getD (home.child below)

/-! ## Loading -/

/-- The files of variables, in the order in which they are looked for. -/
def candidates (env : Environment) (home : Path) (explicit : Option Path) : List Path :=
  explicit.toList ++
    [env.cwd.child ".env",
      (baseDir env "XDG_CONFIG_HOME" home ".config").child "ereader/.env", home.child ".env"]

/-- The letter that an upper-case letter and a long s are compared as. -/
def foldCase (c : Char) : Char := if c = 'ſ' then 's' else c.toLower

/-- Is reading files of variables turned off? -/
def isDisabled (env : Environment) : Bool :=
  (env.get? "PYTHON_DOTENV_DISABLED").any fun value =>
    ["1", "true", "t", "yes", "y"].contains (String.ofList (value.toList.map foldCase))

/-- The first of some paths at which something is. Those behind it are not asked for. -/
def firstThere (t : FileTree) (cwd : Place) : List Path → Except ConfigError (Option Path)
  | [] => .ok none
  | p :: rest =>
    match t.isThere cwd p with
    | .ok true => .ok (some p)
    | .ok false => firstThere t cwd rest
    | .error e => .error (.candidate e p)

/-- The statements of the file of variables that counts: the first that exists. A directory in its
place has none. -/
def fileStatements (env : Environment) (t : FileTree) (candidates : List Path) :
    Except ConfigError (List EnvFile.Statement) := do
  match ← firstThere t env.cwd.parts candidates with
  | none => .ok []
  | some p =>
    if isDisabled env then .ok []
    else
      match t.find env.cwd.parts p with
      | .ok (.file bytes) =>
        match EnvFile.textOf? bytes with
        | none => .error .noText
        | some s => .ok (EnvFile.statements s)
      | .ok .unreadable => .error (.failedRead .failedInput)
      | _ => .ok []

/-- What loading tells: settings and the tree with their directories, or an error; the lines of the
file of variables that cannot be read; and warnings. -/
structure Report where
  result : Except ConfigError (Config × FileTree)
  unreadable : List Nat
  warnings : List ConfigWarning

/-- The settings that an environment names. -/
def ofEnvironment (env : Environment) : Except ConfigError Config × List ConfigWarning :=
  match env.home? with
  | none => (.error .noHome, [])
  | some home =>
    let library :=
      match given? env "EREADER_LIBRARY_DIR" with
      | none => some (home.child "Books")
      | some value => env.expand (Path.ofString value)
    match library with
    | none => (.error .noHome, [])
    | some libraryDir =>
      let (root, w₁) := readRoot env
      let (workers, w₂) := readInteger env "EREADER_SCAN_WORKERS" defaultWorkers
      let (level, w₃) := readInteger env "EREADER_COMPRESSION_LEVEL" defaultLevel
      let follow := readFlag env "EREADER_FOLLOW_SYMLINKS" true
      let config : Config :=
        { ScanSettings.clamped root workers level follow with
          dataDir := (baseDir env "XDG_DATA_HOME" home ".local/share").child "ereader"
          configDir := (baseDir env "XDG_CONFIG_HOME" home ".config").child "ereader"
          libraryDir := libraryDir }
      (.ok config, w₁ ++ w₂ ++ w₃)

/-- Takes the settings from an environment and from the first file of variables that exists. What
the environment says goes before what the file says. -/
def load (env : Environment) (t : FileTree) (explicit : Option Path) : Report :=
  match env.home? with
  | none => ⟨.error .noHome, [], []⟩
  | some home =>
    match fileStatements env t (candidates env home explicit) with
    | .error e => ⟨.error e, [], []⟩
    | .ok statements =>
      let unreadable := statements.filterMap fun s =>
        match s with
        | .unreadable line => some line
        | _ => none
      match EnvFile.apply env (EnvFile.resolve env [] statements) with
      | .error e => ⟨.error (.variable e), unreadable, []⟩
      | .ok env =>
        let (config, warnings) := ofEnvironment env
        let made := do
          let c ← config
          pure (c, ← c.makeDirectories t env.cwd.parts)
        ⟨made, unreadable, warnings⟩

end Config
end EpubLibrary
