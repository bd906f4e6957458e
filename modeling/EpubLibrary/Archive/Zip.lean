import EpubLibrary.Archive.Inflate
import EpubLibrary.Archive.Bzip2
import EpubLibrary.Archive.Lzma
import EpubLibrary.Hash.Crc32
import EpubLibrary.Text.Charset.Basic

/-!
# Zip archives

`Zip.read` reads the directory at the end of an archive. `Zip.find?` looks a member up by name; of
several members of one name the last counts. `Zip.content?` gives the content of a member, if its
local header agrees with the directory, it overlaps no other member, and its checksum is right.
-/

namespace EpubLibrary.Archive

/-- Why an archive cannot be opened. -/
inductive OpenError where
  /-- it has no directory, or one that is damaged -/
  | malformed
  /-- its directory asks for something that cannot be done -/
  | unsupported
  deriving DecidableEq

/-- A member as the directory describes it. `stop` is where the next member or the directory
begins. -/
structure Member where
  name : List Char
  fullName : List Char
  flags : Nat
  method : Nat
  checksum : Nat
  packedSize : Nat
  size : Nat
  start : Int
  stop : Int
  deriving DecidableEq

/-- An opened archive. -/
structure Zip where
  data : Array UInt8
  members : List Member
  deriving DecidableEq

namespace Zip

/-- The bytes of an archive from `start` on, at most `count` of them. -/
def slice (data : Array UInt8) (start count : Nat) : Bytes :=
  (data.extract start (start + count)).toList

/-- The number in `width` bytes of a record from `start` on. -/
def number (record : Bytes) (start width : Nat) : Nat :=
  Bytes.natLe ((record.drop start).take width)

/-! ## The end record -/

def endMagic : Bytes := [0x50, 0x4B, 5, 6]

def endSize : Nat := 22

/-- The last place in a byte string where a mark stands; `place` is that of the first byte. -/
def lastPlace (mark : Bytes) : (place : Nat) → Bytes → Option Nat
  | _, [] => none
  | place, b :: rest =>
    match lastPlace mark (place + 1) rest with
    | some i => some i
    | none => if mark.isPrefixOf (b :: rest) then some place else none

/-- Where the end record stands: at the very end, or before a comment of at most 64 KiB. -/
def endPlace? (data : Array UInt8) : Option Nat :=
  let tail := slice data (data.size - endSize) endSize
  if tail.length = endSize ∧ tail.take 4 = endMagic ∧ tail.drop 20 = [0, 0] then
    some (data.size - endSize)
  else
    let start := data.size - 65536 - endSize
    match lastPlace endMagic start (slice data start data.size) with
    | some i => if i + endSize ≤ data.size then some i else none
    | none => none

/-- Where the directory begins and how long it is, and how far the members lie from where the
directory says. -/
structure Directory where
  start : Nat
  size : Nat
  shift : Int
  deriving DecidableEq

/-- The large form of the end record, in front of the place of the plain one: size and offset of
the directory. -/
def largeEnd? (data : Array UInt8) (place : Nat) : Except OpenError (Option (Nat × Nat)) :=
  let locator := slice data (place - 20) 20
  if locator.length ≠ 20 ∨ locator.take 4 ≠ [0x50, 0x4B, 6, 7] then .ok none
  else if number locator 4 4 ≠ 0 ∨ number locator 16 4 > 1 then .error .malformed
  else
    let record := slice data (place - 76) 56
    if record.length ≠ 56 ∨ record.take 4 ≠ [0x50, 0x4B, 6, 6] then .ok none
    else .ok (some (number record 40 8, number record 48 8))

/-- Finds the directory. It ends where the end record begins, wherever the archive stands. -/
def directory (data : Array UInt8) : Except OpenError Directory :=
  match endPlace? data with
  | none => .error .malformed
  | some place => do
    let record := slice data place endSize
    let large ← largeEnd? data place
    let (size, offset, finish) :=
      match large with
      | some (size, offset) => (size, offset, (place : Int) - 76)
      | none => (number record 12 4, number record 16 4, (place : Int))
    let start := finish - size
    if start < 0 then .error .malformed else pure ⟨start.toNat, size, start - offset⟩

/-! ## The directory -/

/-- The name that the bytes of a member spell: UTF-8 if its flag says so, else the old code page. -/
def decodeName? (flags : Nat) (bytes : Bytes) : Option (List Char) :=
  if flags / 2048 % 2 = 1 then Text.Utf8.decode? bytes
  else (Text.Charset.ofName? "cp437").bind (·.decode? bytes)

/-- Replaces sizes and offsets that do not fit by those of the large form. -/
def enlarge (m : Member) (field : Bytes) : Except OpenError Member := do
  let take (needed : Bool) (value : Nat) (field : Bytes) : Except OpenError (Nat × Bytes) :=
    if !needed then .ok (value, field)
    else if field.length < 8 then .error .malformed
    else .ok (number field 0 8, field.drop 8)
  let (size, field) ← take (m.size = 0xFFFFFFFF) m.size field
  let (packedSize, field) ← take (m.packedSize = 0xFFFFFFFF) m.packedSize field
  let (start, _) ← take (m.start = 0xFFFFFFFF) m.start.toNat field
  pure { m with size := size, packedSize := packedSize, start := start }

/-- Reads the extra fields of a member. -/
def readExtra : (fuel : Nat) → Member → Bytes → Except OpenError Member
  | 0, m, _ => .ok m
  | fuel + 1, m, extra =>
    if extra.length < 4 then .ok m
    else
      let width := number extra 2 2
      if extra.length < width + 4 then .error .malformed
      else do
        let m ← if number extra 0 2 = 1 then enlarge m ((extra.drop 4).take width) else pure m
        readExtra fuel m (extra.drop (width + 4))

/-- The greatest version of the format that is understood. -/
def maxVersion : Nat := 63

/-- Reads the entries of the directory; `left` is how much of its declared size is to come. -/
def readMembers (shift : Int) : (fuel : Nat) → (left : Nat) → Bytes →
    Except OpenError (List Member)
  | 0, _, _ => .ok []
  | fuel + 1, left, bytes =>
    if left = 0 then .ok []
    else if (bytes.take 46).length < 46 ∨ bytes.take 4 ≠ [0x50, 0x4B, 1, 2] then .error .malformed
    else do
      let flags := number bytes 8 2
      let nameWidth := number bytes 28 2
      let extraWidth := number bytes 30 2
      let commentWidth := number bytes 32 2
      let rest := bytes.drop 46
      match decodeName? flags (rest.take nameWidth) with
      | none => .error .unsupported
      | some fullName =>
        if number bytes 6 1 > maxVersion then .error .unsupported
        else
          let m : Member :=
            { name := fullName.takeWhile (· ≠ '\x00'), fullName := fullName, flags := flags,
              method := number bytes 10 2, checksum := number bytes 16 4,
              packedSize := number bytes 20 4, size := number bytes 24 4,
              start := number bytes 42 4, stop := 0 }
          let m ← readExtra extraWidth m ((rest.drop nameWidth).take extraWidth)
          let width := nameWidth + extraWidth + commentWidth
          let more ← readMembers shift fuel (left - (46 + width)) (rest.drop width)
          pure ({ m with start := m.start + shift } :: more)

/-- Tells each member where the next one begins; the last ends at the directory. -/
def withStops (directory : Int) (members : List Member) : List Member :=
  let placed := members.zipIdx.mergeSort fun a b => b.1.start ≤ a.1.start
  let stops := directory :: placed.map fun p => p.1.start
  let known := (placed.zip stops).map fun (p, stop) => (p.2, stop)
  members.zipIdx.map fun (m, i) =>
    { m with stop := ((known.find? (·.1 = i)).map (·.2)).getD directory }

/-- Opens an archive. -/
def read (bytes : Bytes) : Except OpenError Zip := do
  let data := bytes.toArray
  let d ← directory data
  let listing := slice data d.start d.size
  let members ← readMembers d.shift (listing.length + 1) d.size listing
  pure ⟨data, withStops d.start members⟩

/-! ## Members -/

/-- The last member of a name. -/
def find? (zip : Zip) (name : List Char) : Option Member :=
  zip.members.reverse.find? (·.name = name)

/-- The data that a packed form stands for. -/
def unpack? (method : Nat) (packed : Bytes) : Option Bytes :=
  match method with
  | 0 => some packed
  | 8 => inflate? packed
  | 12 => bunzip2? packed
  | 14 => unlzma? packed
  | _ => none

/-- The packed form of a member, if its local header agrees with the directory. -/
def packed? (zip : Zip) (m : Member) : Option Bytes :=
  if m.start < 0 then none
  else
    let start := m.start.toNat
    let header := slice zip.data start 30
    if header.length < 30 ∨ header.take 4 ≠ [0x50, 0x4B, 3, 4] then none
    else
      let nameWidth := number header 26 2
      let place := start + 30 + nameWidth + number header 28 2
      let name := decodeName? (number header 6 2) (slice zip.data (start + 30) nameWidth)
      let encrypted := m.flags % 2 = 1 ∨ m.flags / 64 % 2 = 1
      let patched := m.flags / 32 % 2 = 1
      if name ≠ some m.fullName ∨ m.stop < place + m.packedSize ∨ encrypted ∨ patched then none
      else some (slice zip.data place m.packedSize)

/-- The content of a member. Data beyond its declared size are not part of it. -/
def content? (zip : Zip) (m : Member) : Option Bytes := do
  let packed ← zip.packed? m
  let data ← unpack? m.method packed
  let content := data.take m.size
  if (Crc32.checksum content).toNat = m.checksum then pure content else none

end Zip
end EpubLibrary.Archive
