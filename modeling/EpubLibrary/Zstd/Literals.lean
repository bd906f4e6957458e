import EpubLibrary.Zstd.Huffman

namespace EpubLibrary.Zstd

/-- The literals of a block, the Huffman code in force after it and the rest of the block. -/
structure Literals where
  bytes : Array UInt8
  code : Option Code
  rest : Bytes

namespace Literals

/-- The size of plain or repeated literals, and the width of the header that tells it. -/
def plainSize (block : Bytes) : Nat × Nat :=
  let word := Bytes.natLe (block.take 3)
  match word / 4 % 4 with
  | 1 => (word % 65536 / 16, 2)
  | 3 => (word / 16, 3)
  | _ => (word % 256 / 8, 1)

/-- Sizes of coded literals: decoded, coded, width of the header, and whether in four streams. -/
structure CodedSize where
  decoded : Nat
  coded : Nat
  header : Nat
  fourStreams : Bool

def codedSize (block : Bytes) : CodedSize :=
  let word := Bytes.natLe (block.take 5)
  match word / 4 % 4 with
  | 0 => ⟨word / 16 % 1024, word / 0x4000 % 1024, 3, false⟩
  | 1 => ⟨word / 16 % 1024, word / 0x4000 % 1024, 3, true⟩
  | 2 => ⟨word / 16 % 0x4000, word / 0x40000 % 0x4000, 4, true⟩
  | _ => ⟨word / 16 % 0x40000, word / 0x400000 % 0x40000, 5, true⟩

/-- Reads literals of at most `limit` bytes. -/
def plain? (limit : Nat) (code : Option Code) (block : Bytes) : Option Literals :=
  let (size, header) := plainSize block
  let body := block.drop header
  let literals := body.take size
  if size > limit ∨ block.length < header ∨ literals.length < size then none
  else some ⟨literals.toArray, code, body.drop size⟩

/-- Reads at most `limit` copies of one byte. -/
def repeated? (limit : Nat) (code : Option Code) (block : Bytes) : Option Literals :=
  let (size, header) := plainSize block
  match block.drop header with
  | [] => none
  | b :: rest => if size > limit then none else some ⟨Array.replicate size b, code, rest⟩

/-- Reads coded literals; `code` is the code of an earlier block if it is to be used again. -/
def coded? (limit : Nat) (code : Option Code) (block : Bytes) : Option Literals :=
  let size := codedSize block
  let body := block.drop size.header
  let part := body.take size.coded
  if block.length < 5 ∨ size.decoded > limit ∨ part.length < size.coded ∨
      (size.fourStreams ∧ size.decoded < 6) then none
  else do
    let (code, part) ←
      match code with
      | some code => pure (code, part)
      | none => Code.read? part
    let bytes ←
      if size.fourStreams then code.streams? size.decoded part
      else code.stream? size.decoded #[] part
    pure ⟨bytes, some code, body.drop size.coded⟩

/-- Reads the literals section of a block. -/
def read? (limit : Nat) (code : Option Code) (block : Bytes) : Option Literals :=
  match block with
  | first :: _ :: _ =>
    match first.toNat % 4 with
    | 0 => plain? limit code block
    | 1 => repeated? limit code block
    | 2 => coded? limit none block
    | _ => if code.isSome then coded? limit code block else none
  | _ => none

end Literals
end EpubLibrary.Zstd
