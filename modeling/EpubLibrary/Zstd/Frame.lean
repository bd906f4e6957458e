import EpubLibrary.Zstd.Literals
import EpubLibrary.Zstd.Sequences
import EpubLibrary.Hash.Xxh64

/-!
# Zstandard frames

A `Header` tells the size of the content, whether a checksum follows the blocks, and the greatest
size of a block. `Frame.read?` gives the content of the frame at the front of a byte string. The
header must declare a size, the content must have it, and the checksum, where there is one, must be
that of the content. An empty content is not looked for. What follows the frame is not read.
-/

namespace EpubLibrary.Zstd

def magic : Bytes := [0x28, 0xB5, 0x2F, 0xFD]

/-- No block is longer. -/
def maxBlockSize : Nat := 128 * 1024

/-- The greatest logarithm of a window that a header may declare. -/
def maxWindowLog : Nat := 31

structure Header where
  contentSize : Nat
  hasChecksum : Bool
  blockLimit : Nat
  deriving DecidableEq

namespace Header

/-- The size of the window that a byte declares; the logarithm is in its higher bits. -/
def windowSize? (b : UInt8) : Option Nat :=
  let log := 10 + b.toNat / 8
  if log > maxWindowLog then none else some (Nat.pow 2 log + Nat.pow 2 log / 8 * (b.toNat % 8))

/-- The width of the content size by its flag; a single segment always has one. -/
def sizeWidth (flag : Nat) (single : Bool) : Nat :=
  match flag with
  | 0 => if single then 1 else 0
  | 1 => 2
  | 2 => 4
  | _ => 8

/-- Sizes in two bytes are counted from 256. -/
def sizeOffset (width : Nat) : Nat := if width = 2 then 256 else 0

/-- Reads a header whose window, dictionary and size fields begin at `fields`. -/
def readFields? (descriptor : Nat) (fields : Bytes) : Option (Header × Bytes) :=
  let single := descriptor / 32 % 2 == 1
  let windowWidth := if single then 0 else 1
  let dictionaryWidth := [0, 1, 2, 4].getD (descriptor % 4) 0
  let sizeWidth := sizeWidth (descriptor / 64) single
  let width := windowWidth + dictionaryWidth + sizeWidth
  if (fields.take width).length < width ∨ sizeWidth = 0 ∨ descriptor / 8 % 2 = 1 then none
  else
    let size := Bytes.natLe ((fields.drop (windowWidth + dictionaryWidth)).take sizeWidth) +
      sizeOffset sizeWidth
    let dictionary := Bytes.natLe ((fields.drop windowWidth).take dictionaryWidth)
    let window? := if single then some size else windowSize? (fields.headD 0)
    match window? with
    | none => none
    | some window =>
      if dictionary ≠ 0 ∧ size ≠ 0 then none
      else
        some (⟨size, descriptor / 4 % 2 == 1, min window maxBlockSize⟩, fields.drop width)

/-- The header at the front of a byte string, and what follows it. A frame that is only to be
skipped has no header: it is refused, and so is what begins with one. -/
def read? (bytes : Bytes) : Option (Header × Bytes) :=
  if bytes.take 4 ≠ magic then none
  else
    match bytes.drop 4 with
    | [] => none
    | descriptor :: fields => readFields? descriptor.toNat fields

end Header

/-- What a block leaves to the next one. -/
structure State where
  out : Array UInt8
  code : Option Code
  tables : Option Tables
  distances : Distances

def State.start : State := ⟨#[], none, none, .start⟩

/-- The content of a compressed block. -/
def compressedBlock? (header : Header) (state : State) (block : Bytes) : Option State := do
  let capacity := header.contentSize
  if block.length > header.blockLimit then none
  else
    let room := min header.blockLimit (capacity - state.out.size)
    let literals ← Literals.read? room state.code block
    let (sequences, tables) ← Sequences.read? state.tables literals.rest
    let (out, distances) ← run? capacity literals.bytes sequences 0 state.distances state.out
    pure ⟨out, literals.code, tables, distances⟩

/-- The content of a block of some kind: plain bytes, one byte repeated, or compressed. -/
def block? (header : Header) (kind size : Nat) (state : State) (block : Bytes) : Option State :=
  match kind with
  | 0 =>
    if state.out.size + size > header.contentSize then none
    else some { state with out := state.out ++ block.toArray }
  | 1 =>
    if state.out.size + size > header.contentSize then none
    else some { state with out := state.out ++ Array.replicate size (block.headD 0) }
  | 2 => compressedBlock? header state block
  | _ => none

/-- The state after the blocks of a frame, and what follows them. The lowest bit of a block's
header marks the last block, two bits tell its kind, the rest is its size. -/
def blocks? (header : Header) (state : State) (bytes : Bytes) : Option (State × Bytes) :=
  match bytes with
  | a :: b :: c :: body =>
    let word := Bytes.natLe [a, b, c]
    let kind := word / 2 % 4
    let size := word / 8
    let width := if kind = 1 then 1 else size
    if (body.take width).length < width then none
    else
      match block? header kind size state (body.take width) with
      | none => none
      | some state =>
        if word % 2 = 1 then some (state, body.drop width)
        else blocks? header state (body.drop width)
  | _ => none
termination_by bytes.length
decreasing_by simp only [List.length_drop, List.length_cons]; omega

/-- The checksum of a content: the low half of its hash. -/
def checksum (content : Bytes) : Bytes := Bytes.ofNatLe 4 (Xxh64.digest content).toNat

/-- The content that follows a header. -/
def content? (header : Header) (bytes : Bytes) : Option Bytes :=
  if header.contentSize = 0 then some []
  else
    match blocks? header .start bytes with
    | none => none
    | some (state, rest) =>
      let content := state.out.toList
      if state.out.size ≠ header.contentSize then none
      else if header.hasChecksum ∧ rest.take 4 ≠ checksum content then none
      else some content

/-- The content of the frame at the front of a byte string. -/
def Frame.read? (bytes : Bytes) : Option Bytes :=
  match Header.read? bytes with
  | none => none
  | some (header, rest) => content? header rest

end EpubLibrary.Zstd
