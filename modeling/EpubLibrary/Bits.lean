import EpubLibrary.Bytes

/-!
# Bit streams

A bit stream is the list of its bits, so that reading is `take` and `drop`. `ofLow` lays out bytes
with the least significant bit first, `ofHigh` with the most significant. `valueLow` and `valueHigh`
read a number whose first bit is the least or the most significant.
-/

namespace EpubLibrary

/-- The bits that are still to be read. -/
abbrev Bits := List Bool

namespace Bits

/-- The lowest `width` bits of a number, least significant first. -/
def lowBits : (width : Nat) → Nat → Bits
  | 0, _ => []
  | width + 1, n => (n % 2 == 1) :: lowBits width (n / 2)

/-- The bits of the bytes, the least significant bit of each first. -/
def ofLow (bytes : Bytes) : Bits := bytes.flatMap fun b => lowBits 8 b.toNat

/-- The bits of the bytes, the most significant bit of each first. -/
def ofHigh (bytes : Bytes) : Bits := bytes.flatMap fun b => (lowBits 8 b.toNat).reverse

/-- The number whose bits are listed, the first of them least significant. -/
def valueLow : Bits → Nat
  | [] => 0
  | b :: rest => b.toNat + 2 * valueLow rest

/-- The number whose bits are listed, the first of them most significant. -/
def valueHigh (bits : Bits) : Nat := bits.foldl (fun n b => 2 * n + b.toNat) 0

/-- Reads a number of `width` bits, least significant first. -/
def readLow? (width : Nat) (bits : Bits) : Option (Nat × Bits) :=
  let part := bits.take width
  if part.length < width then none else some (valueLow part, bits.drop width)

/-- Reads a number of `width` bits, most significant first. -/
def readHigh? (width : Nat) (bits : Bits) : Option (Nat × Bits) :=
  let part := bits.take width
  if part.length < width then none else some (valueHigh part, bits.drop width)

/-- The number that the next `width` bits spell, most significant first, with zeros after the
end. -/
def peekHigh (width : Nat) (bits : Bits) : Nat :=
  let part := bits.take width
  valueHigh part * Nat.pow 2 (width - part.length)

end Bits
end EpubLibrary
