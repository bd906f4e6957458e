import EpubLibrary.Bits

/-!
# Finite state entropy tables

A `Counts` gives each symbol its share of the states; a share of `-1` is one state at the end of the
table. `Counts.read?` reads the shares from the front of a byte string. `Table.ofCounts` spreads the
symbols over the states; a state names its symbol and how the next state follows from bits.
-/

namespace EpubLibrary.Zstd

/-- The shares of the symbols among `2 ^ log` states. -/
structure Counts where
  log : Nat
  shares : List Int

/-- A state: its symbol, and the next state as a base plus some bits. -/
structure Cell where
  symbol : Nat
  width : Nat
  base : Nat

/-- The states of a decoder, `2 ^ log` of them. -/
structure Table where
  log : Nat
  cells : Array Cell

namespace Counts

/-- How many bits the number of zero shares behind a zero share takes, and that number. -/
def readZeros : (fuel : Nat) → Bits → Nat × Bits
  | fuel + 1, true :: true :: bits =>
    let (n, bits) := readZeros fuel bits
    (n + 3, bits)
  | _, bits => (Bits.valueLow (bits.take 2), bits.drop 2)

/-- One share: numbers below a bound take one bit less. `left` is one more than the states that
are still to be shared out, and lies between `2 ^ (width - 1)` and `2 ^ width`. -/
def readShare (width left : Nat) (bits : Bits) : Int × Bits :=
  let threshold := Nat.pow 2 (width - 1)
  let short := 2 * threshold - 1 - left
  let low := Bits.valueLow (bits.take (width - 1))
  if low < short then ((low : Int) - 1, bits.drop (width - 1))
  else
    let n := Bits.valueLow (bits.take width)
    let n := if n ≥ threshold then n - short else n
    ((n : Int) - 1, bits.drop width)

/-- The number of binary digits of a number. -/
def bitLength (n : Nat) : Nat := if n = 0 then 0 else Nat.log2 n + 1

/-- Reads shares until every state is shared out; `shares` are those read, last first. -/
def readShares (symbols : Nat) : (fuel left : Nat) → List Int → Bits → Option (List Int × Bits)
  | 0, _, _, _ => none
  | fuel + 1, left, shares, bits =>
    let (share, bits) := readShare (bitLength left) left bits
    let left := left - share.natAbs
    let shares := share :: shares
    if left ≤ 1 then
      if left = 1 ∧ shares.length ≤ symbols then some (shares.reverse, bits) else none
    else if symbols ≤ shares.length then none
    else if share = 0 then
      let (zeros, bits) := readZeros bits.length bits
      let shares := List.replicate zeros 0 ++ shares
      if symbols ≤ shares.length then none else readShares symbols fuel left shares bits
    else readShares symbols fuel left shares bits

/-- The shares of at most `symbols` symbols, and what follows them. -/
def read? (symbols maxLog : Nat) (bytes : Bytes) : Option (Counts × Bytes) := do
  let first ← bytes.head?
  let log := first.toNat % 16 + 5
  if log > maxLog then none
  else
    -- Bits that are missing at the end read as zeros; they are counted below.
    let window := Bits.ofLow (bytes.take 512)
    let padded := window ++ List.replicate 32 false
    let (shares, rest) ← readShares symbols symbols (Nat.pow 2 log + 1) [] (padded.drop 4)
    let width := (padded.length - rest.length + 7) / 8
    if width > bytes.length then none else pure (⟨log, shares⟩, bytes.drop width)

end Counts

namespace Table

/-- The states that symbols of positive share take, in the order in which they take them. -/
def positions (log high : Nat) : List Nat :=
  let size := Nat.pow 2 log
  let step := size / 2 + size / 8 + 3
  ((List.range size).map fun i => i * step % size).filter (· < high)

/-- The symbols of positive share, each as often as its share says. -/
def spread (shares : List Int) : List Nat :=
  shares.zipIdx.flatMap fun (share, symbol) => List.replicate share.toNat symbol

/-- The symbols with a single state at the end of the table. -/
def rare (shares : List Int) : List Nat :=
  (shares.zipIdx.filter (·.1 = -1)).map (·.2)

/-- The symbol of each state. -/
def symbols (counts : Counts) : Array Nat :=
  let size := Nat.pow 2 counts.log
  let rare := rare counts.shares
  let high := size - rare.length
  let placed := (positions counts.log high).zip (spread counts.shares)
  let cells := placed.foldl (fun cells (i, s) => cells.setIfInBounds i s) (Array.replicate size 0)
  rare.zipIdx.foldl (fun cells (s, i) => cells.setIfInBounds (size - 1 - i) s) cells

/-- Gives each state its bits: the states of one symbol, in order, count on from its share. -/
def number (log : Nat) : List Nat → (next : Array Nat) → List Cell
  | [], _ => []
  | s :: rest, next =>
    let state := next.getD s 1
    let width := log - Nat.log2 state
    let start := state * Nat.pow 2 width - Nat.pow 2 log
    ⟨s, width, start⟩ :: number log rest (next.setIfInBounds s (state + 1))

/-- The table in which each symbol has its share of the states. -/
def ofCounts (counts : Counts) : Table :=
  let next := (counts.shares.map fun share => share.natAbs).toArray
  ⟨counts.log, (number counts.log (symbols counts).toList next).toArray⟩

/-- The table of a single symbol, which takes no bits. -/
def single (symbol : Nat) : Table := ⟨0, #[⟨symbol, 0, 0⟩]⟩

def cell (table : Table) (state : Nat) : Cell := table.cells.getD state ⟨0, 0, 0⟩

/-- Reads the first state. -/
def start? (table : Table) (bits : Bits) : Option (Nat × Bits) := Bits.readHigh? table.log bits

/-- Reads the state that follows. -/
def next? (table : Table) (state : Nat) (bits : Bits) : Option (Nat × Bits) := do
  let cell := table.cell state
  let (n, bits) ← Bits.readHigh? cell.width bits
  pure (cell.base + n, bits)

end Table

/-- The bits of a byte string that is read from its end: the highest set bit of the last byte marks
where they begin. -/
def backwardBits? (bytes : Bytes) : Option Bits :=
  match bytes.reverse with
  | [] => none
  | last :: before =>
    if last = 0 then none
    else some ((Bits.ofHigh (last :: before)).dropWhile (! ·) |>.drop 1)

end EpubLibrary.Zstd
