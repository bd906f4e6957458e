import EpubLibrary.CommandLine.Description

namespace EpubLibrary.CommandLine

/-- The lines of a stream up to its end. -/
partial def readLines (input : IO.FS.Stream) (lines : List String) : IO (List String) := do
  let line ← input.getLine
  if line.isEmpty then return lines.reverse
  readLines input ((line.dropEndWhile (· = '\n')).toString :: lines)

end EpubLibrary.CommandLine

open EpubLibrary.CommandLine in
def main (arguments : List String) : IO UInt32 := do
  let setting := Setting.ofLines (← readLines (← IO.getStdin) [])
  let (outcome, _) := run setting.environment arguments ⟨setting.tree, []⟩
  for line in outcome.output do
    IO.println line
  for line in outcome.errors do
    IO.eprintln line
  return UInt32.ofNat outcome.exit
