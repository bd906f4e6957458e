import EpubLibrary.Bytes

/-!
# XXH64

`Xxh64.digest` is the 64 bit non-cryptographic hash with seed zero, whose low half is the checksum
of a Zstandard frame.
-/

namespace EpubLibrary.Xxh64

def prime1 : UInt64 := 0x9E3779B185EBCA87
def prime2 : UInt64 := 0xC2B2AE3D27D4EB4F
def prime3 : UInt64 := 0x165667B19E3779F9
def prime4 : UInt64 := 0x85EBCA77C2B2AE63
def prime5 : UInt64 := 0x27D4EB2F165667C5

def rotateLeft (x n : UInt64) : UInt64 := (x <<< n) ||| (x >>> (64 - n))

/-- The `width` bytes from `start`, least significant first. -/
def word (data : Array UInt8) (start width : Nat) : UInt64 :=
  Nat.fold width (fun i _ x =>
    x ||| ((data.getD (start + i) 0).toUInt64 <<< (8 * UInt64.ofNat i))) 0

def round (acc input : UInt64) : UInt64 := rotateLeft (acc + input * prime2) 31 * prime1

def mergeRound (acc value : UInt64) : UInt64 := (acc ^^^ round 0 value) * prime1 + prime4

/-- The four accumulators after `count` stripes of 32 bytes. -/
def stripes (data : Array UInt8) (count : Nat) : UInt64 × UInt64 × UInt64 × UInt64 :=
  Nat.fold count (fun i _ (v1, v2, v3, v4) =>
    (round v1 (word data (32 * i) 8), round v2 (word data (32 * i + 8) 8),
     round v3 (word data (32 * i + 16) 8), round v4 (word data (32 * i + 24) 8)))
    (prime1 + prime2, prime2, 0, 0 - prime1)

/-- The accumulator before the bytes that no stripe holds. -/
def start (data : Array UInt8) : UInt64 :=
  if data.size < 32 then prime5
  else
    let (v1, v2, v3, v4) := stripes data (data.size / 32)
    let h := rotateLeft v1 1 + rotateLeft v2 7 + rotateLeft v3 12 + rotateLeft v4 18
    mergeRound (mergeRound (mergeRound (mergeRound h v1) v2) v3) v4

/-- The last, fewer than 32 bytes: whole eights, then a four, then single bytes. -/
def tail (data : Array UInt8) (h : UInt64) : UInt64 :=
  let from8 := data.size / 32 * 32
  let eights := (data.size - from8) / 8
  let h := Nat.fold eights (fun i _ h =>
    rotateLeft (h ^^^ round 0 (word data (from8 + 8 * i) 8)) 27 * prime1 + prime4) h
  let from4 := from8 + 8 * eights
  let fours := (data.size - from4) / 4
  let h := Nat.fold fours (fun i _ h =>
    rotateLeft (h ^^^ (word data (from4 + 4 * i) 4 * prime1)) 23 * prime2 + prime3) h
  let from1 := from4 + 4 * fours
  Nat.fold (data.size - from1) (fun i _ h =>
    rotateLeft (h ^^^ ((data.getD (from1 + i) 0).toUInt64 * prime5)) 11 * prime1) h

def avalanche (h : UInt64) : UInt64 :=
  let h := (h ^^^ (h >>> 33)) * prime2
  let h := (h ^^^ (h >>> 29)) * prime3
  h ^^^ (h >>> 32)

/-- The hash of an array of bytes. -/
def digestArray (data : Array UInt8) : UInt64 :=
  avalanche (tail data (start data + UInt64.ofNat data.size))

/-- The hash of a byte string. -/
def digest (data : Bytes) : UInt64 := digestArray data.toArray

end EpubLibrary.Xxh64
