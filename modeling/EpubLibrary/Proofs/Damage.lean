import EpubLibrary.Proofs.Payload
import EpubLibrary.Proofs.Zstd.Layout

namespace EpubLibrary.Payload

open Zstd (HeaderFields Block layOut)

/-- A payload of data whose frame ends with the checksum of the data. -/
def Sealed (payload data : Bytes) : Prop :=
  ∃ frame, payload = zstdCodec :: frame ∧ Zstd.Sealed frame data

/-- What is written at any level is sealed. -/
theorem sealed_of_written {data payload : Bytes} (fits : data.length < 0x10000000000000000)
    (written : (∃ level, compress data level = .ok payload) ∨ Sealed payload data) :
    Sealed payload data := by
  rcases written with ⟨level, written⟩ | sealed
  · exact ⟨Zstd.Frame.write data, (compress_ok_iff.1 written).2, Zstd.sealed_write fits⟩
  · exact sealed

/-- What is read is the content of the frame behind the byte of the codec. -/
theorem decompress_ok_iff {payload data : Bytes} :
    decompress payload = .ok data ↔
      ∃ frame, payload = zstdCodec :: frame ∧ Zstd.Frame.read? frame = some data := by
  constructor
  · intro h
    cases payload with
    | nil => cases h
    | cons codec frame =>
      by_cases known : codec = zstdCodec
      · rw [known, decompress, if_neg (by simp)] at h
        refine ⟨frame, by rw [known], ?_⟩
        split at h
        · cases h
          assumption
        · cases h
      · rw [decompress, if_pos known] at h
        cases h
  · rintro ⟨frame, rfl, read⟩
    rw [decompress, if_neg (by simp), read]

theorem decompress_corrupt {frame : Bytes} (h : Zstd.Frame.read? frame = none) :
    decompress (zstdCodec :: frame) = .error .corrupt := by
  rw [decompress, if_neg (by simp), h]

/-- The reader does not skip: it refuses a payload that begins with a frame to be skipped, even one
that is complete and stands before a frame with content. -/
theorem decompress_skippable (kind : UInt8) (rest : Bytes) :
    decompress (zstdCodec :: kind :: 0x2A :: 0x4D :: 0x18 :: rest) = .error .corrupt := by
  have other : (kind :: 0x2A :: 0x4D :: 0x18 :: rest).take 4 ≠ Zstd.magic := by
    simp [Zstd.magic]
  refine decompress_corrupt ?_
  rw [Zstd.Frame.read?, Zstd.Header.read?, if_pos other]

theorem ok_or_error (payload : Bytes) :
    (∃ data, decompress payload = .ok data) ∨ ∃ e, decompress payload = .error e := by
  cases decompress payload with
  | ok data => exact .inl ⟨data, rfl⟩
  | error e => exact .inr ⟨e, rfl⟩

/-- Only a payload without data is still read when its end is cut off, and then as no data. -/
theorem Sealed.of_cut {payload data cut x : Bytes} (whole : Sealed payload data)
    (front : cut <+: payload) (proper : cut ≠ payload) (reads : decompress cut = .ok x) :
    data = [] ∧ x = [] := by
  obtain ⟨frame, rfl, sealed⟩ := whole
  obtain ⟨part, rfl, read⟩ := decompress_ok_iff.1 reads
  refine sealed.of_cut (List.cons_prefix_cons.1 front).2 ?_ read
  rintro rfl
  exact proper rfl

/-! ## Truncation -/

/-- A payload that was written at any level, or by any other writer of sealed payloads, is never
taken for one when its end is cut off. Only one without data may still be read, and as no data. -/
theorem truncation_noticed {data payload cut : Bytes} (fits : data.length < 0x10000000000000000)
    (written : (∃ level, compress data level = .ok payload) ∨ Sealed payload data)
    (front : cut <+: payload) (proper : cut ≠ payload) :
    (data ≠ [] → ∃ e, decompress cut = .error e) ∧
    (data = [] → (∃ e, decompress cut = .error e) ∨ decompress cut = .ok []) := by
  have whole := sealed_of_written fits written
  rcases ok_or_error cut with ⟨x, reads⟩ | refused
  · obtain ⟨nothing, rfl⟩ := whole.of_cut front proper reads
    exact ⟨fun some_data => absurd nothing some_data, fun _ => .inr reads⟩
  · exact ⟨fun _ => refused, fun _ => .inl refused⟩

/-- 300 bytes, of whose checksum the last byte is missing. -/
theorem truncation_noticed_last : ∃ payload,
    compress (List.replicate 300 0x61) (-7) = .ok payload ∧ payload.dropLast ≠ payload ∧
      ∃ e, decompress payload.dropLast = .error e := by
  have length : (List.replicate 300 (0x61 : UInt8)).length = 300 := List.length_replicate
  generalize List.replicate 300 (0x61 : UInt8) = data at length ⊢
  have fits : data.length < 0x10000000000000000 := by
    rw [length]
    decide
  have some_data : data ≠ [] := List.ne_nil_of_length_pos (by omega)
  have written : compress data (-7) = .ok (packed data) := compress_ok_iff.2 ⟨by decide, rfl⟩
  have shorter : (packed data).dropLast ≠ packed data := by
    intro same
    have length := congrArg List.length same
    simp [packed] at length
  exact ⟨_, written, shorter, (truncation_noticed fits (.inl ⟨_, written⟩)
    (List.dropLast_prefix _) shorter).1 some_data⟩

/-! ## What is accepted -/

/-- A payload that is read begins with the codec and a header that declares the size of the data,
and if there is any and a checksum is declared, its four bytes behind the blocks are those of the
data. So no payload is read in which they were changed. -/
theorem accepted_intact :
    (∀ payload data, decompress payload = .ok data →
      ∃ (fields : HeaderFields) (rest : Bytes), fields.Formed ∧
        payload = zstdCodec :: (fields.bytes ++ rest) ∧ fields.contentSize = data.length ∧
        (data ≠ [] → fields.hasChecksum = true → ∃ (blocks : List Block) (sum trailing : Bytes),
          fields.Holds blocks data ∧ rest = layOut blocks ++ sum ++ trailing ∧ sum.length = 4 ∧
          Bytes.natLe sum = (Xxh64.digest data).toNat % 0x100000000)) ∧
    ∀ payload data, data ≠ [] → data.length < 0x10000000000000000 →
      ((∃ level, compress data level = .ok payload) ∨ Sealed payload data) →
      ∃ front sum, payload = front ++ sum ∧ sum.length = 4 ∧
        ∀ other, other.length = 4 → other ≠ sum →
          ∀ trailing, decompress (front ++ other ++ trailing) = .error .corrupt := by
  constructor
  · intro payload data h
    obtain ⟨frame, rfl, read⟩ := decompress_ok_iff.1 h
    obtain ⟨fields, rest, formed, rfl, size, holds⟩ := Zstd.Frame.read?_layout read
    refine ⟨fields, rest, formed, rfl, size, fun some_data declared => ?_⟩
    obtain ⟨blocks, left, held, rfl, checked⟩ := holds some_data
    refine ⟨blocks, left.take 4, left.drop 4, held, ?_, ?_, ?_⟩
    · rw [List.append_assoc, List.take_append_drop]
    · rw [checked declared, Zstd.length_checksum]
    · rw [checked declared]
      exact Bytes.natLe_ofNatLe _ _
  · intro payload data some_data fits written
    obtain ⟨frame, rfl, sealed⟩ := sealed_of_written fits written
    obtain ⟨front, rfl, refused⟩ := sealed.of_changed some_data
    refine ⟨zstdCodec :: front, Zstd.checksum data, rfl, Zstd.length_checksum _, ?_⟩
    intro other four changed trailing
    exact decompress_corrupt (refused other four changed trailing)

theorem accepted_intact_pair : ∃ payload,
    compress (List.replicate 300 0x61) 22 = .ok payload ∧
    decompress payload = .ok (List.replicate 300 0x61) ∧
    (∃ (fields : HeaderFields) (rest : Bytes), fields.Formed ∧
      payload = zstdCodec :: (fields.bytes ++ rest) ∧ fields.contentSize = 300) ∧
    ∃ front sum, payload = front ++ sum ∧ sum.length = 4 ∧
      ∀ other, other.length = 4 → other ≠ sum →
        ∀ trailing, decompress (front ++ other ++ trailing) = .error .corrupt := by
  have length : (List.replicate 300 (0x61 : UInt8)).length = 300 := List.length_replicate
  generalize List.replicate 300 (0x61 : UInt8) = data at length ⊢
  have fits : data.length < 0x10000000000000000 := by
    rw [length]
    decide
  have some_data : data ≠ [] := List.ne_nil_of_length_pos (by omega)
  have written : compress data 22 = .ok (packed data) := compress_ok_iff.2 ⟨by decide, rfl⟩
  have read := decompress_packed_append fits []
  rw [List.append_nil] at read
  obtain ⟨fields, rest, formed, eq, size, _⟩ := accepted_intact.1 _ _ read
  rw [length] at size
  exact ⟨_, written, read, ⟨fields, rest, formed, eq, size⟩,
    accepted_intact.2 _ data some_data fits (.inl ⟨_, written⟩)⟩

end EpubLibrary.Payload
