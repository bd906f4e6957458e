import EpubLibrary.Payload
import EpubLibrary.Proofs.Results
import EpubLibrary.Proofs.Text.Utf8
import EpubLibrary.Proofs.Zstd.Frame

namespace EpubLibrary.Payload

/-- The payload of data under the only codec. -/
def packed (data : Bytes) : Bytes := zstdCodec :: Zstd.Frame.write data

theorem checkLevel_ok_iff {level : Int} {u : Unit} :
    checkLevel level = .ok u ↔ -0x80000000 ≤ level ∧ level ≤ maxLevel := by
  unfold checkLevel maxLevel
  constructor
  · intro h
    split at h
    · cases h
    split at h
    · cases h
    split at h
    · cases h
    split at h
    · cases h
    · omega
  · rintro ⟨low, high⟩
    rw [if_neg (by omega), if_neg (by omega), if_neg (by omega), if_neg (by omega)]

/-- The levels at which data can be written, and what is written. -/
theorem compress_ok_iff {data p : Bytes} {level : Int} :
    compress data level = .ok p ↔
      (-0x80000000 ≤ level ∧ level ≤ maxLevel) ∧ p = packed data := by
  rw [compress, bind_ok_iff]
  constructor
  · rintro ⟨u, check, eq⟩
    cases eq
    exact ⟨checkLevel_ok_iff.1 check, rfl⟩
  · rintro ⟨inside, rfl⟩
    exact ⟨(), checkLevel_ok_iff.2 inside, rfl⟩

/-- 64 bits hold the size of any list of a running program. -/
theorem decompress_packed_append {data : Bytes} (fits : data.length < 0x10000000000000000)
    (trailing : Bytes) : decompress (packed data ++ trailing) = .ok data := by
  rw [packed, List.cons_append, decompress, if_neg (by simp), Zstd.read?_write_append fits]

/-- A text of any characters is read back. -/
theorem decompressText_packed {text : String}
    (fits : (Bytes.ofText text).length < 0x10000000000000000) :
    decompressText (packed (Bytes.ofText text)) = .ok text := by
  have read := decompress_packed_append fits []
  rw [List.append_nil] at read
  rw [decompressText, read]
  simp only [bind, Except.bind, decode?_ofText, pure, Except.pure, String.ofList_toList]

/-! ## Levels -/

/-- Data can be written at every level that 32 bits hold, up to the greatest, and is read back
whatever follows its payload. -/
theorem compress_read_back {data : Bytes} {level : Int} (fits : data.length < 0x10000000000000000)
    (lowest : -0x80000000 ≤ level) (highest : level ≤ maxLevel) :
    ∃ payload, compress data level = .ok payload ∧
      ∀ trailing, decompress (payload ++ trailing) = .ok data :=
  ⟨packed data, compress_ok_iff.2 ⟨⟨lowest, highest⟩, rfl⟩, decompress_packed_append fits⟩

/-- 300 bytes, whose size needs a field of two bytes that counts from 256. -/
theorem compress_read_back_pair : ∃ payload,
    compress (List.replicate 300 0x61) (-7) = .ok payload ∧
      decompress (payload ++ [0xFF, 0x00]) = .ok (List.replicate 300 0x61) := by
  have fits : (List.replicate 300 (0x61 : UInt8)).length < 0x10000000000000000 := by
    rw [List.length_replicate]
    decide
  have lowest : -0x80000000 ≤ (-7 : Int) := by decide
  obtain ⟨payload, written, read⟩ := compress_read_back fits lowest (by decide)
  exact ⟨payload, written, read [0xFF, 0x00]⟩

/-- A level below all that 32 bits hold is at most the greatest one, and nothing can be written
at it. -/
theorem compress_refuses_low :
    (-0x80000001 : Int) ≤ maxLevel ∧ compress [0x61] (-0x80000001) = .error .below32 :=
  ⟨by decide, rfl⟩

end EpubLibrary.Payload
