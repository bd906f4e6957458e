import EpubLibrary.Hash.Sha256

namespace EpubLibrary.Sha1

/-- The five chaining words. -/
structure State where
  a : UInt32
  b : UInt32
  c : UInt32
  d : UInt32
  e : UInt32

def initial : State := ⟨0x67452301, 0xefcdab89, 0x98badcfe, 0x10325476, 0xc3d2e1f0⟩

def rotateLeft (x n : UInt32) : UInt32 := (x <<< n) ||| (x >>> (32 - n))

/-- Puts the next scheduled word in front of those before it. -/
def extend (w : List UInt32) : List UInt32 :=
  rotateLeft (w.getD 2 0 ^^^ w.getD 7 0 ^^^ w.getD 13 0 ^^^ w.getD 15 0) 1 :: w

/-- The 80 scheduled words of a block of sixteen words. -/
def schedule (block : Bytes) : List UInt32 :=
  (Nat.repeat extend 64 (Sha256.words block).reverse).reverse

/-- The mixing function and the constant of round `i`. -/
def mix (i : Nat) (b c d : UInt32) : UInt32 × UInt32 :=
  if i < 20 then ((b &&& c) ||| (b.complement &&& d), 0x5a827999)
  else if i < 40 then (b ^^^ c ^^^ d, 0x6ed9eba1)
  else if i < 60 then ((b &&& c) ||| (b &&& d) ||| (c &&& d), 0x8f1bbcdc)
  else (b ^^^ c ^^^ d, 0xca62c1d6)

/-- Folds one block into the state. -/
def absorb (s : State) (block : Bytes) : State :=
  let t := (schedule block).zipIdx.foldl (fun t (w, i) =>
    let (f, k) := mix i t.b t.c t.d
    ⟨rotateLeft t.a 5 + f + t.e + k + w, t.a, rotateLeft t.b 30, t.c, t.d⟩) s
  ⟨s.a + t.a, s.b + t.b, s.c + t.c, s.d + t.d, s.e + t.e⟩

/-- The 20 byte digest of a message. -/
def digest (message : Bytes) : Bytes :=
  let whole := Sha256.padded message
  let s := Sha256.absorbAll absorb (whole.length / 64) initial whole
  [s.a, s.b, s.c, s.d, s.e].flatMap fun x => Bytes.ofNatBe 4 x.toNat

end EpubLibrary.Sha1
