import EpubLibrary.Archive.PrefixCode

/-!
# Deflated data

`inflate?` gives the data of a deflated stream. A stream that breaks off gives the data up to there;
a corrupt one gives none. What follows the stream is not looked at.
-/

namespace EpubLibrary.Archive.Inflate

/-- The shortest match of each length symbol and the bits behind it. -/
def lengthBases : Array (Nat × Nat) :=
  #[(3, 0), (4, 0), (5, 0), (6, 0), (7, 0), (8, 0), (9, 0), (10, 0), (11, 1), (13, 1), (15, 1),
    (17, 1), (19, 2), (23, 2), (27, 2), (31, 2), (35, 3), (43, 3), (51, 3), (59, 3), (67, 4),
    (83, 4), (99, 4), (115, 4), (131, 5), (163, 5), (195, 5), (227, 5), (258, 0)]

/-- The shortest distance of each distance symbol and the bits behind it. -/
def distanceBases : Array (Nat × Nat) :=
  #[(1, 0), (2, 0), (3, 0), (4, 0), (5, 1), (7, 1), (9, 2), (13, 2), (17, 3), (25, 3), (33, 4),
    (49, 4), (65, 5), (97, 5), (129, 6), (193, 6), (257, 7), (385, 7), (513, 8), (769, 8),
    (1025, 9), (1537, 9), (2049, 10), (3073, 10), (4097, 11), (6145, 11), (8193, 12), (12289, 12),
    (16385, 13), (24577, 13)]

/-- The codes of a block. -/
structure Codes where
  literals : PrefixCode
  distances : PrefixCode

/-- What is decoded so far, and the bits that are left or why there is no more. -/
abbrev Progress := Array UInt8 × Except Stop Bits

def fixedCodes : Codes :=
  ⟨.ofWidths (List.replicate 144 8 ++ List.replicate 112 9 ++ List.replicate 24 7 ++
    List.replicate 8 8), .ofWidths (List.replicate 32 5)⟩

/-- The value of a symbol in a table of bases. -/
def readValue (bases : Array (Nat × Nat)) (symbol : Nat) (bits : Bits) :
    Except Stop (Nat × Bits) :=
  match bases[symbol]? with
  | none => .error .corrupt
  | some (base, width) => (readLow width bits).map fun (n, bits) => (base + n, bits)

/-- The length and distance of a match that begins with a length symbol. -/
def readMatch (codes : Codes) (symbol : Nat) (bits : Bits) : Except Stop (Nat × Nat × Bits) := do
  let (length, bits) ← readValue lengthBases (symbol - 257) bits
  let (d, bits) ← codes.distances.read bits
  let (distance, bits) ← readValue distanceBases d bits
  pure (length, distance, bits)

/-- Decodes the symbols of a block behind `out`, to the symbol that ends it. -/
def readSymbols (codes : Codes) : (fuel : Nat) → Array UInt8 → Bits → Progress
  | 0, out, _ => (out, .error .short)
  | fuel + 1, out, bits =>
    match codes.literals.read bits with
    | .error e => (out, .error e)
    | .ok (symbol, bits) =>
      if symbol < 256 then readSymbols codes fuel (out.push (UInt8.ofNat symbol)) bits
      else if symbol = 256 then (out, .ok bits)
      else
        match readMatch codes symbol bits with
        | .error e => (out, .error e)
        | .ok (length, distance, bits) =>
          if distance > out.size then (out, .error .corrupt)
          else readSymbols codes fuel (copyBack distance length out) bits

/-- The bytes at the front of bits, as many as there are up to `count`. -/
def takeBytes : (count : Nat) → Array UInt8 → Bits → Progress
  | 0, out, bits => (out, .ok bits)
  | count + 1, out, bits =>
    match readLow 8 bits with
    | .error e => (out, .error e)
    | .ok (n, bits) => takeBytes count (out.push (UInt8.ofNat n)) bits

/-- A block of plain bytes, which begins at a byte. -/
def readStored (out : Array UInt8) (bits : Bits) : Progress :=
  let bits := bits.drop (bits.length % 8)
  match readLow 16 bits with
  | .error e => (out, .error e)
  | .ok (size, bits) =>
    match readLow 16 bits with
    | .error e => (out, .error e)
    | .ok (check, bits) =>
      if size + check ≠ 0xFFFF then (out, .error .corrupt) else takeBytes size out bits

/-- The order in which the widths of the code of widths stand. -/
def widthOrder : List Nat := [16, 17, 18, 0, 8, 7, 9, 6, 10, 5, 11, 4, 12, 3, 13, 2, 14, 1, 15]

/-- Reads numbers of three bits. -/
def readThrees : (count : Nat) → Bits → Except Stop (List Nat × Bits)
  | 0, bits => .ok ([], bits)
  | count + 1, bits => do
    let (n, bits) ← readLow 3 bits
    let (rest, bits) ← readThrees count bits
    pure (n :: rest, bits)

/-- Reads `total` widths of codes, with the code of widths; `widths` are those so far, last
first. -/
def readWidths (c : PrefixCode) (total : Nat) : (fuel : Nat) → List Nat → Bits →
    Except Stop (List Nat × Bits)
  | 0, _, _ => .error .corrupt
  | fuel + 1, widths, bits => do
    if widths.length = total then pure (widths.reverse, bits)
    else
      let (symbol, bits) ← c.read bits
      if symbol < 16 then readWidths c total fuel (symbol :: widths) bits
      else
        let repeated ← if symbol = 16 then
            match widths with
            | [] => .error .corrupt
            | last :: _ => pure last
          else pure 0
        let (n, bits) ← readLow (if symbol = 16 then 2 else if symbol = 17 then 3 else 7) bits
        let count := n + if symbol = 18 then 11 else 3
        if widths.length + count > total then .error .corrupt
        else readWidths c total fuel (List.replicate count repeated ++ widths) bits

/-- May codes of these widths be used? They must fill the space of codes, but for a single code of
one bit, or none at all. -/
def isUsable (widths : List Nat) : Bool :=
  let w := PrefixCode.widest widths
  w = 0 || (0 ≤ PrefixCode.room widths && (PrefixCode.room widths = 0 || w = 1))

/-- Reads the codes of a block that describes its own. -/
def readCodes (bits : Bits) : Except Stop (Codes × Bits) := do
  let (literalCount, bits) ← readLow 5 bits
  let (distanceCount, bits) ← readLow 5 bits
  let (widthCount, bits) ← readLow 4 bits
  let literalCount := literalCount + 257
  let distanceCount := distanceCount + 1
  if literalCount > 286 ∨ distanceCount > 30 then .error .corrupt
  else
    let (threes, bits) ← readThrees (widthCount + 4) bits
    let placed := widthOrder.zip threes
    let widths := (List.range 19).map fun s => ((placed.find? (·.1 = s)).map (·.2)).getD 0
    if PrefixCode.room widths ≠ 0 then .error .corrupt
    else
      let total := literalCount + distanceCount
      let (all, bits) ← readWidths (.ofWidths widths) total (total + 1) [] bits
      let literals := all.take literalCount
      let distances := all.drop literalCount
      if literals.getD 256 0 = 0 ∨ !isUsable literals ∨ !isUsable distances then .error .corrupt
      else pure (⟨.ofWidths literals, .ofWidths distances⟩, bits)

/-- One block of some kind. -/
def readBlock (kind : Nat) (out : Array UInt8) (bits : Bits) : Progress :=
  match kind with
  | 0 => readStored out bits
  | 1 => readSymbols fixedCodes bits.length out bits
  | 2 =>
    match readCodes bits with
    | .error e => (out, .error e)
    | .ok (codes, bits) => readSymbols codes bits.length out bits
  | _ => (out, .error .corrupt)

/-- Blocks up to the last one. -/
def readBlocks : (fuel : Nat) → Array UInt8 → Bits → Progress
  | 0, out, _ => (out, .error .short)
  | fuel + 1, out, bits =>
    match readLow 3 bits with
    | .error e => (out, .error e)
    | .ok (head, bits) =>
      match readBlock (head / 2) out bits with
      | (out, .error e) => (out, .error e)
      | (out, .ok bits) => if head % 2 = 1 then (out, .ok bits) else readBlocks fuel out bits

end Inflate

/-- The data of a deflated stream. -/
def inflate? (bytes : Bytes) : Option Bytes :=
  let bits := Bits.ofLow bytes
  match Inflate.readBlocks bits.length #[] bits with
  | (_, .error .corrupt) => none
  | (out, _) => some out.toList

end EpubLibrary.Archive
