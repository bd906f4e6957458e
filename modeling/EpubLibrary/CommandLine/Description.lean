import EpubLibrary.CommandLine

/-!
# Descriptions of a disk

A description is a list of lines, each a word and its values with tabs between them: variables of
the environment, the working directory, home directories, and what stands on the disk.
`Setting.ofLines` reads a description. Lines that say nothing known are passed over.
-/

namespace EpubLibrary.CommandLine

/-- What a run starts from. -/
structure Setting where
  environment : Environment
  tree : FileTree

namespace Setting

def empty : Setting := ⟨⟨[], ⟨1, []⟩, []⟩, .empty⟩

/-- The bytes that pairs of hexadecimal digits spell. -/
def readHex : List Char → Bytes
  | a :: b :: rest =>
    match Bytes.hexValue? a, Bytes.hexValue? b with
    | some x, some y => UInt8.ofNat (16 * x + y) :: readHex rest
    | _, _ => []
  | _ => []

/-- Puts something on the disk, in directories that are made for it. -/
def place (s : Setting) (p : String) (put : FileTree → Path → Except FileError FileTree) :
    Setting :=
  let p := Path.ofString p
  let tree := ((s.tree.makeDirectories [] ⟨p.slashes, p.parts.dropLast⟩).toOption).getD s.tree
  { s with tree := ((put tree p).toOption).getD tree }

/-- Takes in one line. -/
def readLine (s : Setting) (line : String) : Setting :=
  let env := s.environment
  match line.splitOn "\t" with
  | ["variable", name, value] => { s with environment := env.define name value }
  | ["cwd", p] => { s with environment := { env with cwd := Path.ofString p } }
  | ["home", user, p] => { s with environment := { env with homes := (user, p) :: env.homes } }
  | ["directory", p] => s.place p fun t p => t.create [] p .directory
  | ["file", p, content] => s.place p fun t p => t.write [] p (readHex content.toList)
  | ["link", p, target] => s.place p fun t p => t.create [] p (.link target.toList)
  | ["pipe", p] => s.place p fun t p => t.create [] p .pipe
  | _ => s

def ofLines (lines : List String) : Setting := lines.foldl readLine empty

end Setting
end EpubLibrary.CommandLine
