import EpubLibrary.Zstd.Writer
import Mathlib.Data.List.Basic

namespace EpubLibrary.Zstd

/-! ## Headers -/

/-- Fields of a single segment that hold a size in some width. -/
theorem readFields?_write {flag width size : Nat} (rest : Bytes)
    (same : Header.sizeWidth flag true = width) (some_width : width ≠ 0)
    (above : Header.sizeOffset width ≤ size)
    (fits : size - Header.sizeOffset width < Nat.pow 256 width) :
    Header.readFields? (64 * flag + 32 + 4)
        (Bytes.ofNatLe width (size - Header.sizeOffset width) ++ rest) =
      some (⟨size, true, min size maxBlockSize⟩, rest) := by
  have length := Bytes.length_ofNatLe width (size - Header.sizeOffset width)
  have value : Bytes.natLe (Bytes.ofNatLe width (size - Header.sizeOffset width)) +
      Header.sizeOffset width = size := by
    rw [Bytes.natLe_ofNatLe, Nat.mod_eq_of_lt fits]
    omega
  have single : ((64 * flag + 32 + 4) / 32 % 2 == 1) = true := by
    rw [beq_iff_eq]
    omega
  have checked : ((64 * flag + 32 + 4) / 4 % 2 == 1) = true := by
    rw [beq_iff_eq]
    omega
  have dictionary : (64 * flag + 32 + 4) % 4 = 0 := by omega
  have flagged : (64 * flag + 32 + 4) / 64 = flag := by omega
  have unreserved : (64 * flag + 32 + 4) / 8 % 2 = 0 := by omega
  generalize Bytes.ofNatLe width (size - Header.sizeOffset width) = field at *
  unfold Header.readFields?
  simp only [single, checked, dictionary, flagged, unreserved, same]
  have part : (field ++ rest).take width = field := List.take_left' length
  have left : (field ++ rest).drop width = rest := List.drop_left' length
  have none : [0, 1, 2, 4].getD 0 0 = 0 := rfl
  simp only [if_true, none, Nat.zero_add, List.drop_zero, List.take_zero, part, left, length, value]
  rw [if_neg (by omega), if_neg (by simp [Bytes.natLe])]

theorem sizeField_spec {size : Nat} (fits : size < 0x10000000000000000) :
    (sizeField size).2 < 4 ∧ Header.sizeWidth (sizeField size).2 true = (sizeField size).1 ∧
    (sizeField size).1 ≠ 0 ∧ Header.sizeOffset (sizeField size).1 ≤ size ∧
    size - Header.sizeOffset (sizeField size).1 < Nat.pow 256 (sizeField size).1 := by
  unfold sizeField
  split
  · refine ⟨by decide, rfl, by decide, Nat.zero_le _, ?_⟩
    simp [Header.sizeOffset]
    omega
  split
  · refine ⟨by decide, rfl, by decide, ?_, ?_⟩
    · simp [Header.sizeOffset]
      omega
    · simp [Header.sizeOffset]
      omega
  split
  · refine ⟨by decide, rfl, by decide, Nat.zero_le _, ?_⟩
    simp [Header.sizeOffset]
    omega
  · refine ⟨by decide, rfl, by decide, Nat.zero_le _, ?_⟩
    simp [Header.sizeOffset]
    omega

/-- A header that was written tells the size of the content, whatever follows it. -/
theorem read?_writeHeader {size : Nat} (fits : size < 0x10000000000000000) (rest : Bytes) :
    Header.read? (writeHeader size ++ rest) =
      some (⟨size, true, min size maxBlockSize⟩, rest) := by
  obtain ⟨three, same, some_width, above, below⟩ := sizeField_spec fits
  unfold writeHeader
  cases field : sizeField size with
  | mk width flag =>
    rw [field] at three same some_width above below
    dsimp only at three same some_width above below ⊢
    have descriptor : (UInt8.ofNat (64 * flag + 32 + 4)).toNat = 64 * flag + 32 + 4 := by
      rw [UInt8.toNat_ofNat']
      omega
    rw [Header.read?, if_neg (by simp [magic])]
    have left : (magic ++ UInt8.ofNat (64 * flag + 32 + 4) ::
        Bytes.ofNatLe width (size - Header.sizeOffset width) ++ rest).drop 4 =
        UInt8.ofNat (64 * flag + 32 + 4) ::
          (Bytes.ofNatLe width (size - Header.sizeOffset width) ++ rest) := rfl
    rw [left]
    dsimp only
    rw [descriptor]
    exact readFields?_write rest same some_width above below


/-! ## Blocks -/

/-- The state after a block that holds some bytes. -/
def State.more (state : State) (chunk : Bytes) : State :=
  { state with out := state.out ++ chunk.toArray }

theorem State.more_append (state : State) (chunk rest : Bytes) :
    (state.more chunk).more rest = state.more (chunk ++ rest) := by
  simp [more]

theorem isRepeated_eq {chunk : Bytes} (h : isRepeated chunk = true) :
    ∃ a, chunk = List.replicate chunk.length a ∧ chunk.take 1 = [a] := by
  unfold isRepeated at h
  split at h
  · rename_i a b rest
    refine ⟨a, ?_, rfl⟩
    rw [List.eq_replicate_iff]
    refine ⟨rfl, fun x hx => ?_⟩
    rcases List.mem_cons.1 hx with rfl | hx
    · rfl
    · simpa using List.all_eq_true.1 h x hx
  · cases h

/-- Reading one block whose word tells its kind, its size and whether it is the last. -/
theorem blocks?_word {header : Header} {state : State} {word : Nat} {body rest : Bytes}
    (small : word < 0x1000000)
    (width : body.length = if word / 2 % 4 = 1 then 1 else word / 8) :
    blocks? header state (Bytes.ofNatLe 3 word ++ body ++ rest) =
      (block? header (word / 2 % 4) (word / 8) state body).bind fun after =>
        if word % 2 = 1 then some (after, rest) else blocks? header after rest := by
  have value : Bytes.natLe (Bytes.ofNatLe 3 word) = word := by
    rw [Bytes.natLe_ofNatLe]
    exact Nat.mod_eq_of_lt small
  have part : (body ++ rest).take body.length = body := List.take_left
  have left : (body ++ rest).drop body.length = rest := List.drop_left
  match field : Bytes.ofNatLe 3 word, Bytes.length_ofNatLe 3 word with
  | [a, b, c], _ =>
    rw [field] at value
    rw [blocks?.eq_def]
    simp only [List.cons_append, List.nil_append, value]
    rw [← width]
    simp only [part, left]
    rw [if_neg (by omega)]
    cases block? header (word / 2 % 4) (word / 8) state body <;> rfl

/-- A block that was written gives its chunk, whatever follows it. -/
theorem blocks?_writeBlock {header : Header} {state : State} {chunk : Bytes} (last : Bool)
    (rest : Bytes) (short : chunk.length ≤ maxBlockSize)
    (fits : state.out.size + chunk.length ≤ header.contentSize) :
    blocks? header state (writeBlock last chunk ++ rest) =
      if last = true then some (state.more chunk, rest)
      else blocks? header (state.more chunk) rest := by
  have short : chunk.length ≤ 131072 := short
  have bit : last.toNat < 2 := Bool.toNat_lt last
  unfold writeBlock
  split
  · rename_i repeated
    obtain ⟨a, copies, first⟩ := isRepeated_eq repeated
    have kind : (8 * chunk.length + 2 + last.toNat) / 2 % 4 = 1 := by omega
    have size : (8 * chunk.length + 2 + last.toNat) / 8 = chunk.length := by omega
    have marks : (8 * chunk.length + 2 + last.toNat) % 2 = last.toNat := by omega
    have reads : block? header 1 chunk.length state [a] = some (state.more chunk) := by
      rw [block?, if_neg (by omega), State.more]
      congr 3
      rw [← Array.toList_inj, Array.toList_replicate]
      exact copies.symm
    rw [first, blocks?_word (by omega) (by rw [kind]; rfl), kind, size, reads, marks]
    cases last <;> rfl
  · have kind : (8 * chunk.length + last.toNat) / 2 % 4 = 0 := by omega
    have size : (8 * chunk.length + last.toNat) / 8 = chunk.length := by omega
    have marks : (8 * chunk.length + last.toNat) % 2 = last.toNat := by omega
    have reads : block? header 0 chunk.length state chunk = some (state.more chunk) := by
      rw [block?, if_neg (by omega), State.more]
    rw [blocks?_word (by omega) (by rw [kind, size]; rfl), kind, size, reads, marks]
    cases last <;> rfl

/-- Blocks that were written give the content they hold, whatever follows them. -/
theorem blocks?_writeBlocks {header : Header} {state : State} (content rest : Bytes)
    (fits : state.out.size + content.length ≤ header.contentSize) :
    blocks? header state (writeBlocks content ++ rest) = some (state.more content, rest) := by
  induction h : content.length using Nat.strongRecOn generalizing content state with
  | ind n ih =>
    rw [writeBlocks]
    split
    · rename_i short
      have short : content.length ≤ maxBlockSize := by
        simpa using short
      rw [blocks?_writeBlock true rest short fits, if_pos rfl]
    · rename_i long
      have long : maxBlockSize < content.length := by
        simpa using long
      have whole := List.take_append_drop maxBlockSize content
      have taken : (content.take maxBlockSize).length = maxBlockSize := by
        rw [List.length_take]
        omega
      have positive : 0 < maxBlockSize := by decide
      have left : (content.drop maxBlockSize).length = content.length - maxBlockSize :=
        List.length_drop
      rw [List.append_assoc, blocks?_writeBlock false _ (by omega) (by omega),
        if_neg (by decide), ih _ (by omega) _ ?_ rfl, State.more_append, whole]
      simp only [State.more, Array.size_append, List.size_toArray]
      omega

/-! ## Frames -/

/-- The blocks that were written give the content, whatever follows the checksum. -/
theorem content?_write (content rest : Bytes) {header : Header}
    (size : header.contentSize = content.length) :
    content? header (writeBlocks content ++ (checksum content ++ rest)) = some content := by
  unfold content?
  split
  · rename_i nothing
    rw [size] at nothing
    rw [List.length_eq_zero_iff.1 nothing]
  · have fits : State.start.out.size + content.length ≤ header.contentSize := by
      rw [size]
      exact Nat.le_of_eq (Nat.zero_add _)
    have out : (State.start.more content).out.toList = content := by
      simp [State.more, State.start]
    have sum : (checksum content ++ rest).take 4 = checksum content :=
      List.take_left' (Bytes.length_ofNatLe _ _)
    rw [blocks?_writeBlocks content _ fits]
    dsimp only
    rw [out, sum, if_neg, if_neg]
    · simp
    · rw [← Array.length_toList, out, size]
      simp

/-- Reading undoes writing, and what follows the frame is not looked at. -/
theorem read?_write_append {content : Bytes} (fits : content.length < 0x10000000000000000)
    (rest : Bytes) : Frame.read? (Frame.write content ++ rest) = some content := by
  rw [Frame.read?, Frame.write, List.append_assoc, List.append_assoc, read?_writeHeader fits]
  exact content?_write content rest rfl

end EpubLibrary.Zstd
