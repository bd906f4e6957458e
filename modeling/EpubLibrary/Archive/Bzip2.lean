import EpubLibrary.Archive.PrefixCode

/-!
# Bzip2 data

`bunzip2?` gives the data of a bzip2 stream. A stream that breaks off gives the data of its whole
blocks; a corrupt one gives none. What follows the stream is not looked at.
-/

namespace EpubLibrary.Archive.Bzip2

/-! ## Checksums -/

/-- One bit of the checksum register, whose top bit decides. -/
def crcStep (c : UInt32) : UInt32 :=
  if c &&& 0x80000000 ≠ 0 then (c <<< 1) ^^^ 0x04C11DB7 else c <<< 1

def crcByte (c : UInt32) (b : UInt8) : UInt32 :=
  Nat.fold 8 (fun _ _ c => crcStep c) (c ^^^ (b.toUInt32 <<< 24))

/-- The checksum of a block. -/
def crc (data : Array UInt8) : UInt32 := ~~~ (data.foldl crcByte 0xFFFFFFFF)

/-- The checksum of a stream after one more block. -/
def joinCrc (stream block : UInt32) : UInt32 := ((stream <<< 1) ||| (stream >>> 31)) ^^^ block

/-! ## Tables of a block -/

/-- Reads numbers of one bit. -/
def readFlags : (count : Nat) → Bits → Except Stop (List Bool × Bits)
  | 0, bits => .ok ([], bits)
  | _ + 1, [] => .error .short
  | count + 1, b :: bits => (readFlags count bits).map fun (bs, bits) => (b :: bs, bits)

/-- The bytes that occur in a block: sixteen flags tell which ranges of sixteen have flags. -/
def readUsed (bits : Bits) : Except Stop (List UInt8 × Bits) := do
  let (ranges, bits) ← readFlags 16 bits
  let mut used := []
  let mut bits := bits
  for (present, i) in ranges.zipIdx do
    if present then
      let (flags, rest) ← readFlags 16 bits
      bits := rest
      used := used ++ ((flags.zipIdx.filter (·.1)).map fun (_, j) => UInt8.ofNat (16 * i + j))
  pure (used, bits)

/-- Counts the set bits up to a clear one; there must be fewer than `limit`. -/
def readUnary (limit : Nat) : Bits → Except Stop (Nat × Bits)
  | [] => .error .short
  | false :: bits => .ok (0, bits)
  | true :: bits =>
    match limit with
    | 0 | 1 => .error .corrupt
    | limit + 1 => (readUnary limit bits).map fun (n, bits) => (n + 1, bits)

/-- Takes the element at a place to the front. -/
def moveToFront {α : Type} (l : List α) (i : Nat) : List α :=
  match l[i]? with
  | some x => x :: l.eraseIdx i
  | none => l

/-- Reads which table serves each group of symbols. -/
def readSelectors (groups : Nat) : (count : Nat) → List Nat → Bits →
    Except Stop (List Nat × Bits)
  | 0, _, bits => .ok ([], bits)
  | count + 1, order, bits => do
    let (i, bits) ← readUnary groups bits
    let order := moveToFront order i
    let (rest, bits) ← readSelectors groups count order bits
    pure (order.headD 0 :: rest, bits)

/-- Moves a width up and down as the bits say, to the bit that ends it. -/
def readWidth : (width : Nat) → Bits → Except Stop (Nat × Bits)
  | width, bits =>
    if width < 1 ∨ 20 < width then .error .corrupt
    else
      match bits with
      | [] => .error .short
      | false :: bits => .ok (width, bits)
      | true :: [] => .error .short
      | true :: down :: bits => readWidth (if down then width - 1 else width + 1) bits

/-- The widths of the codes of `count` symbols; each is told from the one before. -/
def readWidths : (count width : Nat) → Bits → Except Stop (List Nat × Bits)
  | 0, _, bits => .ok ([], bits)
  | count + 1, width, bits => do
    let (width, bits) ← readWidth width bits
    let (rest, bits) ← readWidths count width bits
    pure (width :: rest, bits)

def readTables (symbols : Nat) : (count : Nat) → Bits → Except Stop (List PrefixCode × Bits)
  | 0, bits => .ok ([], bits)
  | count + 1, bits => do
    let (width, bits) ← readHigh 5 bits
    let (widths, bits) ← readWidths symbols width bits
    let (rest, bits) ← readTables symbols count bits
    pure ({ PrefixCode.ofWidths widths with limit := PrefixCode.maxWidth } :: rest, bits)

/-! ## Symbols of a block -/

/-- How the symbols of a block are read. -/
structure Format where
  tables : Array PrefixCode
  selectors : Array Nat
  last : Nat
  limit : Nat

/-- Decoding within a block: symbols read, bytes by recency, a run under way (its length and the
weight of its next digit) and the bytes so far. -/
structure Run where
  read : Nat
  recent : List UInt8
  length : Nat
  weight : Nat
  out : Array UInt8

/-- Places the run that is under way. -/
def Run.settle (r : Run) : Run :=
  { r with length := 0, weight := 1,
           out := r.out ++ Array.replicate r.length (r.recent.headD 0) }

/-- Reads the symbols of a block: run digits, or places in the order of recency. -/
def readSymbols (f : Format) : (fuel : Nat) → Run → Bits → Except Stop (Array UInt8 × Bits)
  | 0, _, _ => .error .short
  | fuel + 1, r, bits =>
    match f.selectors[r.read / 50]? with
    | none => .error .corrupt
    | some t =>
      match (f.tables.getD t ⟨#[], #[], 0⟩).read bits with
      | .error e => .error e
      | .ok (symbol, bits) =>
        let r := { r with read := r.read + 1 }
        if symbol ≤ 1 then
          if r.weight ≥ 0x200000 then .error .corrupt
          else
            let length := r.length + r.weight * (symbol + 1)
            if r.out.size + length > f.limit then .error .corrupt
            else readSymbols f fuel { r with length := length, weight := 2 * r.weight } bits
        else
          let r := r.settle
          if symbol = f.last then .ok (r.out, bits)
          else if r.out.size ≥ f.limit then .error .corrupt
          else
            let recent := moveToFront r.recent (symbol - 1)
            readSymbols f fuel
              { r with recent := recent, out := r.out.push (recent.headD 0) } bits

/-! ## From sorted rotations to text -/

/-- Where the rotations that begin with each byte start in the sorted order. -/
def starts (data : Array UInt8) : Array Nat :=
  let counts := data.foldl (fun c b => c.modify b.toNat (· + 1)) (Array.replicate 256 0)
  (counts.foldl (fun (acc : Array Nat × Nat) n => (acc.1.push acc.2, acc.2 + n)) (#[], 0)).1

/-- For each place in the sorted order, the place of the rotation that begins one byte later. -/
def followers (data : Array UInt8) : Array Nat :=
  (data.foldl (fun (acc : Array Nat × Array Nat × Nat) b =>
    let (next, starts, i) := acc
    let at_ := starts.getD b.toNat 0
    (next.setIfInBounds at_ i, starts.setIfInBounds b.toNat (at_ + 1), i + 1))
    (Array.replicate data.size 0, starts data, 0)).1

/-- Walks `count` steps through the rotations. -/
def walk (data : Array UInt8) (next : Array Nat) :
    (count place : Nat) → Array UInt8 → Array UInt8
  | 0, _, out => out
  | count + 1, place, out =>
    let place := next.getD place 0
    walk data next count place (out.push (data.getD place 0))

/-- Spells out runs: four equal bytes are followed by how many more there are. -/
def expand : List UInt8 → (last : Option UInt8) → (run : Nat) → Array UInt8 → Array UInt8
  | [], _, _, out => out
  | b :: rest, last, run, out =>
    if run = 4 then expand rest none 0 (out ++ Array.replicate b.toNat (last.getD 0))
    else if last = some b then expand rest last (run + 1) (out.push b)
    else expand rest (some b) 1 (out.push b)

/-! ## Streams -/

/-- Reads a block behind its magic number: its data and checksum. -/
def readBlock (level : Nat) (bits : Bits) : Except Stop (Array UInt8 × UInt32 × Bits) := do
  let (expected, bits) ← readHigh 32 bits
  let (randomized, bits) ← readHigh 1 bits
  let (origin, bits) ← readHigh 24 bits
  let (used, bits) ← readUsed bits
  let (groups, bits) ← readHigh 3 bits
  if randomized = 1 ∨ used.isEmpty ∨ groups < 2 ∨ 6 < groups then .error .corrupt
  else
    let (selectorCount, bits) ← readHigh 15 bits
    if selectorCount = 0 then .error .corrupt
    else
      let (selectors, bits) ← readSelectors groups selectorCount (List.range groups) bits
      let (tables, bits) ← readTables (used.length + 2) groups bits
      let f : Format := ⟨tables.toArray, selectors.toArray, used.length + 1, 100000 * level⟩
      let (sorted, bits) ← readSymbols f bits.length ⟨0, used, 0, 1, #[]⟩ bits
      if sorted.size ≤ origin then .error .corrupt
      else
        let next := followers sorted
        let data := expand (walk sorted next sorted.size origin #[]).toList none 0 #[]
        if (crc data).toNat ≠ expected then .error .corrupt else pure (data, crc data, bits)

def blockMagic : Nat := 0x314159265359

def endMagic : Nat := 0x177245385090

/-- Reads blocks up to the end of the stream. -/
def readBlocks (level : Nat) : (fuel : Nat) → (stream : UInt32) → Array UInt8 → Bits →
    Array UInt8 × Option Stop
  | 0, _, out, _ => (out, some .short)
  | fuel + 1, stream, out, bits =>
    match readHigh 48 bits with
    | .error e => (out, some e)
    | .ok (magic, bits) =>
      if magic = endMagic then
        match readHigh 32 bits with
        | .error e => (out, some e)
        | .ok (expected, _) => (out, if expected = stream.toNat then none else some .corrupt)
      else if magic ≠ blockMagic then (out, some .corrupt)
      else
        match readBlock level bits with
        | .error e => (out, some e)
        | .ok (data, crc, bits) => readBlocks level fuel (joinCrc stream crc) (out ++ data) bits

end Bzip2

/-- The data of a bzip2 stream. -/
def bunzip2? (bytes : Bytes) : Option Bytes :=
  match bytes with
  | 0x42 :: 0x5A :: 0x68 :: level :: rest =>
    if level < 0x31 ∨ 0x39 < level then none
    else
      let bits := Bits.ofHigh rest
      match Bzip2.readBlocks (level.toNat - 0x30) bits.length 0 #[] bits with
      | (_, some .corrupt) => none
      | (out, _) => some out.toList
  | _ => if [0x42, 0x5A, 0x68].take bytes.length = bytes then some [] else none

end EpubLibrary.Archive
