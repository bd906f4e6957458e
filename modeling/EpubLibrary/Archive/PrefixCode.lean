import EpubLibrary.Bits

/-!
# Prefix codes

A `PrefixCode` is given by the widths of the codes of its symbols: shorter codes come first, and
codes of one width follow the order of the symbols. `PrefixCode.read` reads one symbol. `Stop` tells
why a decoder does not go on: the input ends, or it is corrupt.
-/

namespace EpubLibrary.Archive

/-- Why a decoder stops. -/
inductive Stop where
  | short
  | corrupt
  deriving DecidableEq

/-- Reads a number of `width` bits, least significant first. -/
def readLow (width : Nat) (bits : Bits) : Except Stop (Nat × Bits) :=
  match Bits.readLow? width bits with
  | some r => .ok r
  | none => .error .short

/-- Reads a number of `width` bits, most significant first. -/
def readHigh (width : Nat) (bits : Bits) : Except Stop (Nat × Bits) :=
  match Bits.readHigh? width bits with
  | some r => .ok r
  | none => .error .short

/-- How many codes there are of each width, the symbols in the order of their codes, and the bits
after which it is clear that none of them comes. -/
structure PrefixCode where
  counts : Array Nat
  symbols : Array Nat
  limit : Nat

namespace PrefixCode

/-- No code is wider. -/
def maxWidth : Nat := 20

/-- The greatest width that a code has. -/
def widest (widths : List Nat) : Nat := widths.foldl max 0

/-- The code whose symbols have codes of the given widths; width zero means no code. -/
def ofWidths (widths : List Nat) : PrefixCode :=
  let numbered := widths.zipIdx
  let ofWidth (w : Nat) := (numbered.filter (·.1 = w)).map (·.2)
  let byWidth := (List.range maxWidth).map fun i => ofWidth (i + 1)
  ⟨(0 :: byWidth.map List.length).toArray, byWidth.flatten.toArray, max 1 (widest widths)⟩

/-- How much of the space of all codes is left when each code takes its share, counted in codes of
the greatest width; negative if the codes take too much. -/
def room (widths : List Nat) : Int :=
  let w := widest widths
  widths.foldl (fun left n => if n = 0 then left else left - Nat.pow 2 (w - n)) (Nat.pow 2 w)

/-- Reads one symbol: `code` are the bits so far, of which there are `width`; `first` is the first
code of that width and `index` the place of its symbol. -/
def readFrom (c : PrefixCode) : (fuel width code first index : Nat) → Bits →
    Except Stop (Nat × Bits)
  | 0, _, _, _, _, _ => .error .corrupt
  | _ + 1, _, _, _, _, [] => .error .short
  | fuel + 1, width, code, first, index, b :: bits =>
    let code := 2 * code + b.toNat
    let first := 2 * first
    let count := c.counts.getD (width + 1) 0
    if code < first + count then .ok (c.symbols.getD (index + (code - first)) 0, bits)
    else readFrom c fuel (width + 1) code (first + count) (index + count) bits

def read (c : PrefixCode) (bits : Bits) : Except Stop (Nat × Bits) :=
  c.readFrom c.limit 0 0 0 0 bits

end PrefixCode

/-- Appends `count` bytes, each a copy of the one `distance` before it. -/
def copyBack (distance : Nat) : (count : Nat) → Array UInt8 → Array UInt8
  | 0, out => out
  | count + 1, out => copyBack distance count (out.push (out.getD (out.size - distance) 0))

end EpubLibrary.Archive
