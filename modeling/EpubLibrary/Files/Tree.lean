import EpubLibrary.Bytes
import EpubLibrary.Path
import EpubLibrary.Text.Quoted

namespace EpubLibrary

/-- The components that lead to a node from the root, without links and steps up. -/
abbrev Place := List Component

inductive FileNode where
  | directory
  | file (content : Bytes)
  /-- a file that fails to be read -/
  | unreadable
  | pipe
  | link (target : List Char)
  deriving DecidableEq

/-- Is the node a regular file, readable or not? -/
def FileNode.isRegular : FileNode → Bool
  | .file _ | .unreadable => true
  | _ => false

inductive FileError where
  | notFound
  | failedInput
  | taken
  | notDirectory
  | isDirectory
  | nameTooLong
  | tooManyLinks
  deriving DecidableEq

/-- The number that the system gives to an error. -/
def FileError.number : FileError → Nat
  | .notFound => 2
  | .failedInput => 5
  | .taken => 17
  | .notDirectory => 20
  | .isDirectory => 21
  | .nameTooLong => 36
  | .tooManyLinks => 40

def FileError.text : FileError → String
  | .notFound => "No such file or directory"
  | .failedInput => "Input/output error"
  | .taken => "File exists"
  | .notDirectory => "Not a directory"
  | .isDirectory => "Is a directory"
  | .nameTooLong => "File name too long"
  | .tooManyLinks => "Too many levels of symbolic links"

/-- How an error at a path is told. -/
def FileError.message (e : FileError) (p : Path) : String :=
  "[Errno " ++ toString e.number ++ "] " ++ e.text ++ ": " ++ Text.quoted p.text

/-- Does the error say that nothing is there? -/
def FileError.isAbsence : FileError → Bool
  | .notFound | .notDirectory | .tooManyLinks => true
  | .failedInput | .taken | .isDirectory | .nameTooLong => false

/-- The nodes of a tree, each at a place of its own. The root is a directory. -/
structure FileTree where
  nodes : List (Place × FileNode)
  /-- how many links may be met on one path -/
  maxLinks : Nat
  /-- how many bytes a path may have -/
  maxSize : Nat

namespace FileTree

/-- A tree of nothing, on a system that follows forty links and takes paths below four kibibytes. -/
def empty : FileTree := ⟨[], 40, 4095⟩

def node? (t : FileTree) (place : Place) : Option FileNode :=
  if place = [] then some .directory else t.nodes.lookup place

/-- The places of the directories. -/
def directories (t : FileTree) : List Place :=
  [] :: (t.nodes.filter (·.2 = .directory)).map (·.1)

/-- The names in the directory at a place. -/
def names (t : FileTree) (place : Place) : List Component :=
  t.nodes.filterMap fun (p, _) =>
    match p.getLast? with
    | some name => if p.dropLast = place then some name else none
    | none => none

/-! ## Following a path -/

/-- The place that components lead to from a place. Only what stands at the last place may be
missing. A link in the last place is followed if asked for. -/
def follow (t : FileTree) (last : Bool) (links : Nat) (place : Place) :
    List Component → Except FileError Place
  | [] => .ok place
  | part :: rest =>
    match t.node? place with
    | none => .error .notFound
    | some .directory =>
      if !Path.isStep part then follow t last links place rest
      else if part = Path.up then follow t last links place.dropLast rest
      else if Path.isLong part then .error .nameTooLong
      else
        match t.node? (place ++ [part]) with
        | some (.link target) =>
          if rest = [] && !last then .ok (place ++ [part])
          else
            match links with
            | 0 => .error .tooManyLinks
            | links + 1 =>
              let start := if target.head? = some '/' then [] else place
              follow t last links start (Path.split target ++ rest)
        | _ => follow t last links (place ++ [part]) rest
    | some _ => .error .notDirectory
  termination_by parts => (links, parts.length)

/-- Follows a path that is seen from a working directory. -/
def followPath (t : FileTree) (last : Bool) (cwd : Place) (p : Path) : Except FileError Place :=
  if t.maxSize < p.size then .error .nameTooLong
  else t.follow last t.maxLinks (if p.slashes = 0 then cwd else []) p.parts

/-- The place that a path leads to. -/
def place (t : FileTree) (cwd : Place) (p : Path) : Except FileError Place :=
  t.followPath true cwd p

/-- The place of a path itself: a link there is not followed. -/
def ownPlace (t : FileTree) (cwd : Place) (p : Path) : Except FileError Place :=
  t.followPath false cwd p

/-- What a path leads to. -/
def find (t : FileTree) (cwd : Place) (p : Path) : Except FileError FileNode := do
  match t.node? (← t.place cwd p) with
  | some node => pure node
  | none => throw .notFound

/-- What a path leads to, if anything is there. Errors that say otherwise stay errors. -/
def find? (t : FileTree) (cwd : Place) (p : Path) : Except FileError (Option FileNode) :=
  match t.find cwd p with
  | .ok node => .ok (some node)
  | .error e => if e.isAbsence then .ok none else .error e

def isThere (t : FileTree) (cwd : Place) (p : Path) : Except FileError Bool :=
  (·.isSome) <$> t.find? cwd p

def isDirectory (t : FileTree) (cwd : Place) (p : Path) : Except FileError Bool :=
  (· = some .directory) <$> t.find? cwd p

def isFile (t : FileTree) (cwd : Place) (p : Path) : Except FileError Bool :=
  (·.any FileNode.isRegular) <$> t.find? cwd p

/-- Is the path itself a link? -/
def isLink (t : FileTree) (cwd : Place) (p : Path) : Bool :=
  match (t.ownPlace cwd p).toOption.bind t.node? with
  | some (.link _) => true
  | _ => false

/-- The content of the file at a path. -/
def read (t : FileTree) (cwd : Place) (p : Path) : Except FileError Bytes := do
  match ← t.find cwd p with
  | .file content => pure content
  | .directory => throw .isDirectory
  | _ => throw .failedInput

/-! ## Changing a tree -/

/-- Puts a node at a place. -/
def put (t : FileTree) (place : Place) (node : FileNode) : FileTree :=
  if (t.nodes.lookup place).isSome then
    { t with nodes := t.nodes.map fun (p, n) => if p = place then (p, node) else (p, n) }
  else { t with nodes := t.nodes ++ [(place, node)] }

/-- Puts a node at a path where nothing stands. -/
def create (t : FileTree) (cwd : Place) (p : Path) (node : FileNode) :
    Except FileError FileTree := do
  let place ← t.ownPlace cwd p
  if (t.node? place).isSome then throw .taken
  pure (t.put place node)

/-- Writes a file, in place of the one that is there. -/
def write (t : FileTree) (cwd : Place) (p : Path) (content : Bytes) :
    Except FileError FileTree := do
  let place ← t.place cwd p
  if t.node? place = some .directory then throw .isDirectory
  pure (t.put place (.file content))

/-- Removes what stands at a path itself, unless that is a directory. -/
def remove (t : FileTree) (cwd : Place) (p : Path) : Except FileError FileTree := do
  let place ← t.ownPlace cwd p
  match t.node? place with
  | none => throw .notFound
  | some .directory => throw .isDirectory
  | some _ => pure { t with nodes := t.nodes.filter (·.1 ≠ place) }

/-- A directory is there already, or an error stands. -/
def settle (t : FileTree) (cwd : Place) (p : Path) (e : FileError) :
    Except (FileError × Path) FileTree :=
  match t.isDirectory cwd p with
  | .ok isThere => if isThere then .ok t else .error (e, p)
  | .error e => .error (e, p)

/-- Makes a directory, and before it those above it that are missing. -/
def makeDirectories (t : FileTree) (cwd : Place) (p : Path) :
    Except (FileError × Path) FileTree :=
  match t.create cwd p .directory with
  | .ok t => .ok t
  | .error .notFound =>
    if _isRoot : p.parts = [] then .error (.notFound, p)
    else do
      let t ← makeDirectories t cwd ⟨p.slashes, p.parts.dropLast⟩
      match t.create cwd p .directory with
      | .ok t => .ok t
      | .error .notFound => .error (.notFound, p)
      | .error e => t.settle cwd p e
  | .error e => t.settle cwd p e
  termination_by p.parts.length
  decreasing_by
    have := List.length_pos_iff.2 _isRoot
    simp only [List.length_dropLast]
    omega

end FileTree
end EpubLibrary
