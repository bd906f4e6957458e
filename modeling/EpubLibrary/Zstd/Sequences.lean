import EpubLibrary.Zstd.Fse

/-!
# The sequences of a compressed block

A sequence says: copy so many literals, then so many bytes from so far back. `Sequences.read?` reads
the sequences section of a block with its three tables. `Distances` are the last three distances,
which a sequence can name again. `run?` carries sequences out behind what has been decoded before.
-/

namespace EpubLibrary.Zstd

/-- A sequence as it is coded: `distance` is still a code number. -/
structure Sequence where
  literals : Nat
  distance : Nat
  length : Nat

/-! ## Codes -/

/-- A run of codes from a base on: each stands for `2 ^ width` values. -/
structure CodeValue where
  base : Nat
  width : Nat

/-- Numbers codes that follow each other without a gap, by their widths. -/
def codeValues : (base : Nat) → List Nat → List CodeValue
  | _, [] => []
  | base, width :: rest => ⟨base, width⟩ :: codeValues (base + Nat.pow 2 width) rest

/-- What the codes of literal counts stand for. -/
def literalCodes : Array CodeValue :=
  (codeValues 0 (List.replicate 16 0 ++
    [1, 1, 1, 1, 2, 2, 3, 3, 4, 6, 7, 8, 9, 10, 11, 12, 13, 14, 15, 16])).toArray

/-- What the codes of match lengths stand for. -/
def lengthCodes : Array CodeValue :=
  (codeValues 3 (List.replicate 32 0 ++
    [1, 1, 1, 1, 2, 2, 3, 3, 4, 4, 5, 7, 8, 9, 10, 11, 12, 13, 14, 15, 16])).toArray

/-- The shares of the codes where a block does not give its own. -/
def literalShares : Counts :=
  ⟨6, [4, 3, 2, 2, 2, 2, 2, 2, 2, 2, 2, 2, 2, 1, 1, 1, 2, 2, 2, 2, 2, 2, 2, 2, 2, 3, 2, 1, 1, 1,
    1, 1, -1, -1, -1, -1]⟩

def lengthShares : Counts :=
  ⟨6, [1, 4, 3, 2, 2, 2, 2, 2, 2, 1, 1, 1, 1, 1, 1, 1, 1, 1, 1, 1, 1, 1, 1, 1, 1, 1, 1, 1, 1, 1,
    1, 1, 1, 1, 1, 1, 1, 1, 1, 1, 1, 1, 1, 1, 1, 1, -1, -1, -1, -1, -1, -1, -1]⟩

def distanceShares : Counts :=
  ⟨5, [1, 1, 1, 1, 1, 1, 2, 2, 2, 1, 1, 1, 1, 1, 1, 1, 1, 1, 1, 1, 1, 1, 1, 1, -1, -1, -1, -1,
    -1]⟩

/-! ## Tables -/

/-- The tables of the three parts of a sequence. -/
structure Tables where
  literals : Table
  distances : Table
  lengths : Table

/-- How one part is coded: its default shares, greatest code and greatest table. -/
structure PartFormat where
  shares : Counts
  maxCode : Nat
  maxLog : Nat

def literalFormat : PartFormat := ⟨literalShares, 35, 9⟩
def distanceFormat : PartFormat := ⟨distanceShares, 31, 8⟩
def lengthFormat : PartFormat := ⟨lengthShares, 52, 9⟩

/-- The table of one part: the default, that of a single code, one described here, or that of an
earlier block. -/
def readTable? (format : PartFormat) (mode : Nat) (earlier : Option Table) (bytes : Bytes) :
    Option (Table × Bytes) :=
  match mode with
  | 0 => some (Table.ofCounts format.shares, bytes)
  | 1 =>
    match bytes with
    | [] => none
    | b :: rest => if b.toNat > format.maxCode then none else some (.single b.toNat, rest)
  | 2 => do
    let (counts, rest) ← Counts.read? (format.maxCode + 1) format.maxLog bytes
    pure (Table.ofCounts counts, rest)
  | _ => earlier.map (·, bytes)

/-- Reads how many sequences there are. -/
def readCount? : Bytes → Option (Nat × Bytes)
  | [] => none
  | a :: rest =>
    if a.toNat < 128 then some (a.toNat, rest)
    else if a.toNat < 255 then
      match rest with
      | b :: rest => some ((a.toNat - 128) * 256 + b.toNat, rest)
      | [] => none
    else
      match rest with
      | b :: c :: rest => some (b.toNat + 256 * c.toNat + 0x7F00, rest)
      | _ => none

/-- The value of a code and the bits behind it. -/
def readValue? (codes : Array CodeValue) (code : Nat) (bits : Bits) : Option (Nat × Bits) := do
  let value ← codes[code]?
  let (n, bits) ← Bits.readHigh? value.width bits
  pure (value.base + n, bits)

/-- Reads `count` sequences with the states of the three tables; the bits must then be used up. -/
def readSequences? (t : Tables) : (count : Nat) → (ll of ml : Nat) → List Sequence → Bits →
    Option (List Sequence)
  | 0, _, _, _, done, bits => if bits.isEmpty then some done.reverse else none
  | count + 1, ll, of, ml, done, bits =>
    let distanceCode := (t.distances.cell of).symbol
    match Bits.readHigh? distanceCode bits with
    | none => none
    | some (n, bits) =>
      match readValue? lengthCodes (t.lengths.cell ml).symbol bits with
      | none => none
      | some (length, bits) =>
        match readValue? literalCodes (t.literals.cell ll).symbol bits with
        | none => none
        | some (literals, bits) =>
          let done := ⟨literals, Nat.pow 2 distanceCode + n, length⟩ :: done
          if count = 0 then (if bits.isEmpty then some done.reverse else none)
          else
            match t.literals.next? ll bits with
            | none => none
            | some (ll, bits) =>
              match t.lengths.next? ml bits with
              | none => none
              | some (ml, bits) =>
                match t.distances.next? of bits with
                | none => none
                | some (of, bits) => readSequences? t count ll of ml done bits

/-- Reads the sequences section of a block, to its end. `earlier` are the tables of the block
before. -/
def Sequences.read? (earlier : Option Tables) (bytes : Bytes) :
    Option (List Sequence × Option Tables) := do
  let (count, rest) ← readCount? bytes
  if count = 0 then
    if rest.isEmpty then pure ([], earlier) else none
  else
    match rest with
    | [] => none
    | modes :: rest =>
      let m := modes.toNat
      if m % 4 ≠ 0 then none
      else do
        let (literals, rest) ← readTable? literalFormat (m / 64) (earlier.map (·.literals)) rest
        let (distances, rest) ←
          readTable? distanceFormat (m / 16 % 4) (earlier.map (·.distances)) rest
        let (lengths, rest) ← readTable? lengthFormat (m / 4 % 4) (earlier.map (·.lengths)) rest
        let t : Tables := ⟨literals, distances, lengths⟩
        let bits ← backwardBits? rest
        let (ll, bits) ← literals.start? bits
        let (of, bits) ← distances.start? bits
        let (ml, bits) ← lengths.start? bits
        let sequences ← readSequences? t count ll of ml [] bits
        pure (sequences, some t)

/-! ## Carrying out -/

/-- The last three distances, the latest first. -/
structure Distances where
  first : Nat
  second : Nat
  third : Nat

namespace Distances

def start : Distances := ⟨1, 4, 8⟩

/-- What a distance number means after so many literals: above three it is a new distance, else it
names an earlier one, and after no literals the next older one. -/
def resolve (d : Distances) (number literals : Nat) : Nat × Distances :=
  if number > 3 then (number - 3, ⟨number - 3, d.first, d.second⟩)
  else
    match if literals = 0 then number + 1 else number with
    | 1 => (d.first, d)
    | 2 => (d.second, ⟨d.second, d.first, d.third⟩)
    | 3 => (d.third, ⟨d.third, d.first, d.second⟩)
    | _ => (d.first - 1, ⟨d.first - 1, d.first, d.second⟩)

end Distances

/-- Appends `count` bytes, each a copy of the one `distance` before it. -/
def copyBack (distance : Nat) : (count : Nat) → Array UInt8 → Array UInt8
  | 0, out => out
  | count + 1, out => copyBack distance count (out.push (out.getD (out.size - distance) 0))

/-- Carries out sequences behind `out`, which must not grow beyond `capacity` bytes. The literals
that no sequence takes come last. -/
def run? (capacity : Nat) (literals : Array UInt8) :
    List Sequence → (used : Nat) → Distances → Array UInt8 → Option (Array UInt8 × Distances)
  | [], used, distances, out =>
    let rest := literals.extract used literals.size
    if out.size + rest.size > capacity then none else some (out ++ rest, distances)
  | s :: more, used, distances, out =>
    if out.size + s.literals + s.length > capacity ∨ used + s.literals > literals.size then none
    else
      let out := out ++ literals.extract used (used + s.literals)
      let (distance, distances) := distances.resolve s.distance s.literals
      if distance = 0 ∨ distance > out.size then none
      else
        run? capacity literals more (used + s.literals) distances (copyBack distance s.length out)

end EpubLibrary.Zstd
