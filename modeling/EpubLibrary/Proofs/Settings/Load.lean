import EpubLibrary.Proofs.Files.Follow
import EpubLibrary.Proofs.Payload
import EpubLibrary.Proofs.Settings.Variables
import EpubLibrary.Settings.Config

namespace EpubLibrary.Config

open EpubLibrary.EnvFile

variable {env : Environment} {file : Bindings} {home : Path}

/-! ## Sources -/

/-- Which statements the files of variables supply: those of the first path at which not nothing is.
A directory there has none. -/
inductive Supplied (env : Environment) (t : FileTree) (candidates : List Path) :
    List Statement → Prop where
  | nothing (nowhere : ∀ p ∈ candidates, t.isThere env.cwd.parts p = .ok false) :
      Supplied env t candidates []
  | file {p : Path} {bytes : Bytes} {s : List Char}
      (first : IsFirst (fun p => t.isThere env.cwd.parts p ≠ .ok false) candidates p)
      (found : t.find env.cwd.parts p = .ok (.file bytes)) (text : textOf? bytes = some s) :
      Supplied env t candidates (statements s)
  | directory {p : Path}
      (first : IsFirst (fun p => t.isThere env.cwd.parts p ≠ .ok false) candidates p)
      (found : t.find env.cwd.parts p = .ok .directory) :
      Supplied env t candidates []

theorem firstThere_of_nowhere {t : FileTree} {cwd : Place} {candidates : List Path}
    (nowhere : ∀ p ∈ candidates, t.isThere cwd p = .ok false) :
    firstThere t cwd candidates = .ok none := by
  induction candidates with
  | nil => rfl
  | cons p rest ih =>
    rw [firstThere, nowhere p List.mem_cons_self]
    exact ih fun q mem => nowhere q (List.mem_cons_of_mem p mem)

theorem firstThere_of_isFirst {t : FileTree} {cwd : Place} {candidates : List Path} {p : Path}
    {node : FileNode} (first : IsFirst (fun p => t.isThere cwd p ≠ .ok false) candidates p)
    (found : t.find cwd p = .ok node) : firstThere t cwd candidates = .ok (some p) := by
  induction candidates with
  | nil => exact absurd rfl first.ne_nil
  | cons q rest ih =>
    rw [firstThere]
    rcases first.cases with ⟨rfl, _⟩ | ⟨nothing, first⟩
    · rw [FileTree.isThere_of_find found]
    · rw [Decidable.not_not.1 nothing]
      exact ih first

theorem fileStatements_of_supplied {t : FileTree} {candidates : List Path} {ss : List Statement}
    (enabled : isDisabled env = false) (h : Supplied env t candidates ss) :
    fileStatements env t candidates = .ok ss := by
  rw [fileStatements]
  cases h with
  | nothing nowhere =>
    rw [firstThere_of_nowhere nowhere]
    rfl
  | file first found text =>
    simp [firstThere_of_isFirst first found, bind, Except.bind, enabled, found, text]
  | directory first found =>
    simp [firstThere_of_isFirst first found, bind, Except.bind, enabled, found]

/-- The value of a setting. An empty one tells nothing. -/
def told (env : Environment) (file : Bindings) (name : String) : Option String :=
  (valueOf env file name).filter (· ≠ "")

/-- The directory of the program in the one that a variable names, or else in one below the home
directory. -/
def ownPath (env : Environment) (file : Bindings) (home : Path) (name below : String) : Path :=
  (((valueOf env file name).map Path.ofString).getD (home.child below)).child "ereader"

/-- The settings that an environment and a file of variables tell, below a home directory. What
cannot be read gives the default. -/
structure Follows (env : Environment) (file : Bindings) (home : Path) (c : Config) : Prop where
  root : c.root =
    ((told env file "EREADER_NAMESPACE").bind fun s => (Uuid.parse s).toOption).getD defaultRoot
  workers : c.scanWorkers = clamp 1 32
    (((told env file "EREADER_SCAN_WORKERS").bind fun s => Text.readInteger? 10 s.toList).getD 4)
  level : c.compressionLevel = clamp 1 22
    (((told env file "EREADER_COMPRESSION_LEVEL").bind fun s => Text.readInteger? 10 s.toList).getD
      8)
  follow : c.followSymlinks = ((told env file "EREADER_FOLLOW_SYMLINKS").map isYes).getD true
  library_told : ∀ s, told env file "EREADER_LIBRARY_DIR" = some s →
    (loaded env file).expand (Path.ofString s) = some c.libraryDir
  library_default : told env file "EREADER_LIBRARY_DIR" = none → c.libraryDir = home.child "Books"
  data : c.dataDir = ownPath env file home "XDG_DATA_HOME" ".local/share"
  config : c.configDir = ownPath env file home "XDG_CONFIG_HOME" ".config"

/-! ## Settings -/

theorem readInteger_fst (env : Environment) (name : String) (default : Int) :
    (readInteger env name default).1 =
      ((given? env name).bind fun s => Text.readInteger? 10 s.toList).getD default := by
  rw [readInteger]
  cases given? env name with
  | none => rfl
  | some s => cases read : Text.readInteger? 10 s.toList <;> simp [read]

theorem readRoot_fst (env : Environment) : (readRoot env).1 =
    ((given? env "EREADER_NAMESPACE").bind fun s => (Uuid.parse s).toOption).getD defaultRoot := by
  rw [readRoot]
  cases given? env "EREADER_NAMESPACE" with
  | none => rfl
  | some s => cases read : Uuid.parse s <;> simp [read, Except.toOption]

theorem given?_loaded (distinct : (file.map (·.1)).Nodup) (name : String) :
    given? (loaded env file) name = told env file name := by
  rw [given?, get?_loaded distinct, told]

/-- The settings that an environment names, with a directory for the library. -/
def named (env : Environment) (home library : Path) : Config :=
  { ScanSettings.clamped (readRoot env).1 (readInteger env "EREADER_SCAN_WORKERS" defaultWorkers).1
      (readInteger env "EREADER_COMPRESSION_LEVEL" defaultLevel).1
      (readFlag env "EREADER_FOLLOW_SYMLINKS" true) with
    dataDir := (baseDir env "XDG_DATA_HOME" home ".local/share").child "ereader"
    configDir := (baseDir env "XDG_CONFIG_HOME" home ".config").child "ereader"
    libraryDir := library }

theorem ofEnvironment_default (known : env.home? = some home)
    (blank : given? env "EREADER_LIBRARY_DIR" = none) :
    (ofEnvironment env).1 = .ok (named env home (home.child "Books")) := by
  rw [ofEnvironment, known]
  simp only [blank]
  rfl

theorem ofEnvironment_told (known : env.home? = some home) {s : String} {library : Path}
    (setting : given? env "EREADER_LIBRARY_DIR" = some s)
    (expands : env.expand (Path.ofString s) = some library) :
    (ofEnvironment env).1 = .ok (named env home library) := by
  rw [ofEnvironment, known]
  simp only [setting, expands]
  rfl

/-- Settings follow the environment that has the variables of the file. -/
theorem named_follows (distinct : (file.map (·.1)).Nodup) {library : Path}
    (library_told : ∀ s, told env file "EREADER_LIBRARY_DIR" = some s →
      (loaded env file).expand (Path.ofString s) = some library)
    (library_default : told env file "EREADER_LIBRARY_DIR" = none →
      library = home.child "Books") :
    Follows env file home (named (loaded env file) home library) where
  root := by rw [← given?_loaded distinct]; exact readRoot_fst _
  workers := by
    rw [← given?_loaded distinct]
    exact congrArg (clamp 1 32) (readInteger_fst _ _ _)
  level := by
    rw [← given?_loaded distinct]
    exact congrArg (clamp 1 22) (readInteger_fst _ _ _)
  follow := by rw [← given?_loaded distinct]; rfl
  library_told := library_told
  library_default := library_default
  data := by rw [ownPath, ← get?_loaded distinct]; rfl
  config := by rw [ownPath, ← get?_loaded distinct]; rfl

theorem ofEnvironment_follows (distinct : (file.map (·.1)).Nodup)
    (known : (loaded env file).home? = some home)
    (library : ∀ s, told env file "EREADER_LIBRARY_DIR" = some s →
      ((loaded env file).expand (Path.ofString s)).isSome) :
    ∃ c, (ofEnvironment (loaded env file)).1 = .ok c ∧ Follows env file home c := by
  cases setting : told env file "EREADER_LIBRARY_DIR" with
  | none =>
    have blank := (given?_loaded distinct _).trans setting
    refine ⟨_, ofEnvironment_default known blank, named_follows distinct ?_ fun _ => rfl⟩
    simp [setting]
  | some s =>
    have given := (given?_loaded distinct _).trans setting
    obtain ⟨dir, expands⟩ := Option.isSome_iff_exists.1 (library s setting)
    refine ⟨_, ofEnvironment_told known given expands, named_follows distinct ?_ ?_⟩
    · rintro s' told
      rw [setting] at told
      cases told
      exact expands
    · simp [setting]

/-! ## Trees with two files of variables -/

/-- A directory in a directory of the root that is there stays. -/
theorem makeDirectories_of_there {t : FileTree} (cwd : Place) {above name : Component}
    (names : Path.IsName above ∧ Path.IsName name)
    (fits : (⟨1, [above, name]⟩ : Path).size ≤ t.maxSize) (outer : t.node? [above] = some .directory)
    (inner : t.node? [above, name] = some .directory) :
    t.makeDirectories cwd ⟨1, [above, name]⟩ = .ok t := by
  have first : FileTree.Leads t.node? 0 [] [above] [above] :=
    .enter rfl names.1 (by simp [outer]) (.here _)
  have own : t.ownPlace cwd ⟨1, [above, name]⟩ = .ok [above, name] :=
    FileTree.Leads.ownPlace (p := ⟨1, [above]⟩) first (Nat.zero_le _) fits outer names.2
  have whole : FileTree.Leads t.node? 0 [] [above, name] [above, name] :=
    first.append (.enter outer names.2 (by simp [inner]) (.here _))
  have isThere : t.isDirectory cwd ⟨1, [above, name]⟩ = .ok true :=
    FileTree.isDirectory_iff.2 (FileTree.find_eq_ok_iff.2
      ⟨_, FileTree.place_eq_ok_iff.2 ⟨fits, 0, Nat.zero_le _, whole⟩, inner⟩)
  have taken : t.create cwd ⟨1, [above, name]⟩ .directory = .error .taken := by
    rw [FileTree.create, own]
    simp [bind, Except.bind, inner, throw, throwThe, MonadExceptOf.throw]
  rw [FileTree.makeDirectories, taken]
  simp [FileTree.settle, isThere]

/-- A tree with a file of variables in the working directory `/w`, and another one in `/h`. -/
def treeOf (content other : Bytes) : FileTree where
  nodes := [([['h']], .directory), ([['w']], .directory), ([['d']], .directory),
    ([['d'], "ereader".toList], .directory), ([['w'], ".env".toList], .file content),
    ([['h'], ".env".toList], .file other)]
  maxLinks := 40
  maxSize := 4095

def treeWith (text other : List Char) : FileTree :=
  treeOf (Bytes.ofText (String.ofList text)) (Bytes.ofText (String.ofList other))

/-- The file in the working directory is found there. -/
theorem find_treeOf (content other : Bytes) : (treeOf content other).find [['w']]
    ⟨1, [['w'], ".env".toList]⟩ = .ok (.file content) := by
  have leads : FileTree.Leads (treeOf content other).node? 0 [] [['w'], ".env".toList]
      [['w'], ".env".toList] :=
    .enter rfl (by decide) nofun (.enter rfl (by decide) nofun (.here _))
  have fits : (⟨1, [['w'], ".env".toList]⟩ : Path).size ≤ 4095 := by decide
  exact FileTree.find_eq_ok_iff.2
    ⟨_, FileTree.place_eq_ok_iff.2 ⟨fits, 0, Nat.zero_le _, leads⟩, rfl⟩

/-- The directories that settings name are there. -/
theorem makeDirectories_treeOf (cwd : Place) (content other : Bytes) :
    (treeOf content other).makeDirectories cwd ⟨1, [['d'], "ereader".toList]⟩ =
      .ok (treeOf content other) := by
  have fits : (⟨1, [['d'], "ereader".toList]⟩ : Path).size ≤ 4095 := by decide
  exact makeDirectories_of_there cwd (by decide) fits rfl rfl

theorem supplied_treeWith (cwd : env.cwd = ⟨1, [['w']]⟩) (home : Path) {c : Char}
    {text : List Char} (unmarked : c ≠ '\ufeff') (lines : unifyLines (c :: text) = c :: text)
    (other : List Char) :
    Supplied env (treeWith (c :: text) other) (candidates env home none)
      (statements (c :: text)) := by
  have first : env.cwd.child ".env" = ⟨1, [['w'], ".env".toList]⟩ := by
    rw [cwd]
    decide
  have found : (treeWith (c :: text) other).find env.cwd.parts (env.cwd.child ".env") =
      .ok (.file (Bytes.ofText (String.ofList (c :: text)))) := by
    rw [first, cwd]
    exact find_treeOf _ _
  have decodes : textOf? (Bytes.ofText (String.ofList (c :: text))) = some (c :: text) := by
    simp [textOf?, decode?_ofText, unmarked, lines]
  have here : (treeWith (c :: text) other).isThere env.cwd.parts (env.cwd.child ".env") ≠
      .ok false := by
    rw [FileTree.isThere_of_find found]
    exact nofun
  exact .file (isFirst_here _ here) found decodes

/-! ## Loading -/

theorem makeDirectories_ok_iff {c : Config} {t t' : FileTree} {cwd : Place} :
    c.makeDirectories t cwd = .ok t' ↔ ∃ made, t.makeDirectories cwd c.dataDir = .ok made ∧
      made.makeDirectories cwd c.configDir = .ok t' := by
  simp only [makeDirectories, bind_ok_iff, mapError_ok_iff]

variable {t : FileTree} {explicit : Option Path} {ss : List Statement}

theorem load_ok_iff (known : env.home? = some home) (enabled : isDisabled env = false)
    (supplied : Supplied env t (candidates env home explicit) ss) {c : Config} {t' : FileTree} :
    (load env t explicit).result = .ok (c, t') ↔ ∃ e, apply env (resolve env [] ss) = .ok e ∧
      (ofEnvironment e).1 = .ok c ∧ c.makeDirectories t e.cwd.parts = .ok t' := by
  rw [load, known]
  simp only [fileStatements_of_supplied enabled supplied]
  cases apply env (resolve env [] ss) with
  | error _ => simp
  | ok e =>
    simp only [bind_ok_iff, pure, Except.pure, Except.ok.injEq, Prod.mk.injEq, exists_eq_left']
    constructor
    · rintro ⟨_, named, _, made, rfl, rfl⟩
      exact ⟨named, made⟩
    · rintro ⟨named, made⟩
      exact ⟨c, named, t', made, rfl, rfl⟩

/-- The number of workers is there and empty, and the root is no identifier. -/
def sparse : Environment where
  bindings := [("HOME", "/h"), ("XDG_DATA_HOME", "/d"), ("XDG_CONFIG_HOME", "/d"),
    ("EREADER_SCAN_WORKERS", ""), ("EREADER_NAMESPACE", "7692c3ad")]
  cwd := ⟨1, [['w']]⟩
  homes := []

/-- A number of workers, to which the directory of the library refers. -/
def workersText (workers : List Char) : List Char :=
  "EREADER_SCAN_WORKERS=".toList ++ workers ++ "\nEREADER_COMPRESSION_LEVEL=99\n".toList ++
    "EREADER_LIBRARY_DIR=~/b$\x7bEREADER_SCAN_WORKERS\x7d".toList

def workersFile : Bindings :=
  [("EREADER_SCAN_WORKERS", some "7"), ("EREADER_COMPRESSION_LEVEL", some "99"),
    ("EREADER_LIBRARY_DIR", some "~/b")]

def plain : Environment where
  bindings := [("HOME", "/h"), ("XDG_DATA_HOME", "/d"), ("XDG_CONFIG_HOME", "/d")]
  cwd := ⟨1, [['w']]⟩
  homes := []

def homeless : Environment where
  bindings := [("HOME", "~x"), ("XDG_DATA_HOME", "/d"), ("XDG_CONFIG_HOME", "/d"),
    ("EREADER_LIBRARY_DIR", "/x")]
  cwd := ⟨1, [['w']]⟩
  homes := []

/-- A path of a name that is too long, in the working directory. -/
def longPath : Path := Walk.below ⟨1, [['w']]⟩ FileTree.longName

end EpubLibrary.Config
