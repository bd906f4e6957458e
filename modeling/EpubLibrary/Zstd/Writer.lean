import EpubLibrary.Zstd.Frame

namespace EpubLibrary.Zstd

/-- The width and flag of the field that holds a content size. -/
def sizeField (size : Nat) : Nat × Nat :=
  if size < 256 then (1, 0)
  else if size < 65536 + 256 then (2, 1)
  else if size < 0x100000000 then (4, 2)
  else (8, 3)

/-- The header of a single segment with a checksum. -/
def writeHeader (size : Nat) : Bytes :=
  let (width, flag) := sizeField size
  magic ++ UInt8.ofNat (64 * flag + 32 + 4) ::
    Bytes.ofNatLe width (size - Header.sizeOffset width)

/-- Do the bytes repeat their first one? -/
def isRepeated (chunk : Bytes) : Bool :=
  match chunk with
  | a :: b :: rest => (b :: rest).all (· == a)
  | _ => false

/-- One block that holds a chunk of the content. -/
def writeBlock (last : Bool) (chunk : Bytes) : Bytes :=
  if isRepeated chunk then
    Bytes.ofNatLe 3 (8 * chunk.length + 2 + last.toNat) ++ chunk.take 1
  else Bytes.ofNatLe 3 (8 * chunk.length + last.toNat) ++ chunk

/-- The blocks of a content. -/
def writeBlocks (content : Bytes) : Bytes :=
  let rest := content.drop maxBlockSize
  if rest.isEmpty then writeBlock true content
  else writeBlock false (content.take maxBlockSize) ++ writeBlocks rest
termination_by content.length
decreasing_by
  rename_i h
  have : 0 < (content.drop maxBlockSize).length := by
    cases hd : content.drop maxBlockSize with
    | nil => simp [rest, hd] at h
    | cons _ _ => simp
  simp only [rest, List.length_drop] at *
  have : 0 < maxBlockSize := by decide
  omega

/-- The frame of a content. -/
def Frame.write (content : Bytes) : Bytes :=
  writeHeader content.length ++ writeBlocks content ++ checksum content

end EpubLibrary.Zstd
