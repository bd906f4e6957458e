import EpubLibrary.Zstd.Fse

/-!
# Huffman coded literals

A `Code` tells for every run of `log` bits the symbol that it starts with. `Code.read?` reads the
weights of the symbols and builds the code from them; a symbol of weight `w` owns `2 ^ (w - 1)` of
the runs, and the weight of the last symbol is implied. `Code.stream?` and `Code.streams?` decode
one stream or four.
-/

namespace EpubLibrary.Zstd

/-- What a run of bits starts with: a symbol and the width of its code. -/
structure Leaf where
  symbol : UInt8
  width : Nat

structure Code where
  log : Nat
  leaves : Array Leaf

namespace Code

/-- The longest code of a literal. -/
def maxLog : Nat := 12

/-- The runs of bits that the symbols of one weight own. -/
def leavesOf (log weight : Nat) (weights : List Nat) : List Leaf :=
  weights.zipIdx.flatMap fun (w, symbol) =>
    if w = weight then
      List.replicate (Nat.pow 2 (w - 1)) ⟨UInt8.ofNat symbol, log + 1 - w⟩
    else []

/-- The code of all weights, in which lighter symbols come first. -/
def ofWeights (log : Nat) (weights : List Nat) : Code :=
  ⟨log, ((List.range log).flatMap fun w => leavesOf log (w + 1) weights).toArray⟩

/-- The code of weights to which the weight of the last symbol is to be added: the weights must
leave a power of two of the runs to it, and the lightest symbols come in pairs. -/
def complete? (weights : List Nat) : Option Code :=
  let total := (weights.map fun w => Nat.pow 2 w / 2).foldl (· + ·) 0
  if total = 0 ∨ weights.any (· > maxLog) then none
  else
    let log := Nat.log2 total + 1
    let rest := Nat.pow 2 log - total
    let last := Nat.log2 rest + 1
    if log > maxLog ∨ Nat.pow 2 (Nat.log2 rest) ≠ rest then none
    else
      let weights := weights ++ [last]
      let light := weights.count 1
      if light < 2 ∨ light % 2 = 1 then none else some (ofWeights log weights)

/-- Reads symbols alternately with two states until the bits run out. -/
def readWeights (table : Table) : (fuel : Nat) → (mine other : Nat) → Bits → Option (List Nat)
  | 0, _, _, _ => none
  | fuel + 1, mine, other, bits =>
    let symbol := (table.cell mine).symbol
    match table.next? mine bits with
    | none => some [symbol, (table.cell other).symbol]
    | some (mine, bits) => (readWeights table fuel other mine bits).map (symbol :: ·)

/-- The weights that an entropy coded description spells; at most 255 of them. -/
def codedWeights? (bytes : Bytes) : Option (List Nat) := do
  let (counts, rest) ← Counts.read? 256 6 bytes
  let table := Table.ofCounts counts
  let bits ← backwardBits? rest
  let (first, bits) ← table.start? bits
  let (second, bits) ← table.start? bits
  readWeights table 254 first second bits

/-- The two halves of each byte. -/
def halves (bytes : Bytes) : List Nat := bytes.flatMap fun b => [b.toNat / 16, b.toNat % 16]

/-- The code described at the front of a byte string, and what follows it. -/
def read? (bytes : Bytes) : Option (Code × Bytes) :=
  match bytes with
  | [] => none
  | first :: rest =>
    let n := first.toNat
    let width := if n < 128 then n else (n - 127 + 1) / 2
    if (rest.take width).length < width then none
    else do
      let weights ←
        if n < 128 then codedWeights? (rest.take width)
        else pure ((halves (rest.take width)).take (n - 127))
      let code ← complete? weights
      pure (code, rest.drop width)

/-- Takes off bits that must be there. -/
def dropBits? : (count : Nat) → Bits → Option Bits
  | 0, bits => some bits
  | _ + 1, [] => none
  | count + 1, _ :: bits => dropBits? count bits

/-- Decodes `count` symbols behind `out`; the bits must then be used up. -/
def decode? (code : Code) : (count : Nat) → Array UInt8 → Bits → Option (Array UInt8)
  | 0, out, bits => if bits.isEmpty then some out else none
  | count + 1, out, bits =>
    match code.leaves[Bits.peekHigh code.log bits]? with
    | none => none
    | some leaf =>
      match dropBits? leaf.width bits with
      | none => none
      | some bits => decode? code count (out.push leaf.symbol) bits

/-- Decodes a single stream of `count` symbols. -/
def stream? (code : Code) (count : Nat) (out : Array UInt8) (bytes : Bytes) :
    Option (Array UInt8) := do
  code.decode? count out (← backwardBits? bytes)

/-- Decodes four streams, whose widths but the last stand before them. The first three hold a
quarter of the symbols each, rounded up. -/
def streams? (code : Code) (count : Nat) (bytes : Bytes) : Option (Array UInt8) :=
  if bytes.length < 10 then none
  else
    let width (i : Nat) := Bytes.natLe ((bytes.drop (2 * i)).take 2)
    let body := bytes.drop 6
    let quarter := (count + 3) / 4
    if body.length < width 0 + width 1 + width 2 ∨ count < 3 * quarter then none
    else do
      let out ← code.stream? quarter #[] (body.take (width 0))
      let body := body.drop (width 0)
      let out ← code.stream? quarter out (body.take (width 1))
      let body := body.drop (width 1)
      let out ← code.stream? quarter out (body.take (width 2))
      code.stream? (count - 3 * quarter) out (body.drop (width 2))

end Code
end EpubLibrary.Zstd
