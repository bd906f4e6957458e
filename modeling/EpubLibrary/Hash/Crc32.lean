import EpubLibrary.Bytes

namespace EpubLibrary.Crc32

/-- The remainder of one byte, eight shifts long. -/
def entry (byte : Nat) : UInt32 :=
  Nat.fold 8 (fun _ _ (c : UInt32) =>
    if c &&& 1 = 1 then (0xEDB88320 : UInt32) ^^^ (c >>> 1) else c >>> 1) (UInt32.ofNat byte)

def table : Array UInt32 := ((List.range 256).map entry).toArray

/-- Extends a running remainder by one byte. -/
def step (crc : UInt32) (byte : UInt8) : UInt32 :=
  table.getD ((crc ^^^ byte.toUInt32) &&& 0xFF).toNat 0 ^^^ (crc >>> 8)

/-- The checksum of a byte string. -/
def checksum (data : Bytes) : UInt32 := (data.foldl step 0xFFFFFFFF).complement

end EpubLibrary.Crc32
